import ComponentSpec.Name

set_option autoImplicit false

/-! # Keys

Two declarations denote the same thing when they agree in name and type; the rest of them, such as
documentation, does not count. Keys are ordered by name, then by type, each by code points. -/

namespace ComponentSpec

/-- What has a name and a declared type. -/
class Declared (α : Type) where
  name : α → String
  typeName : α → TypeName

/-- What can be given another name. -/
class Renamable (α : Type) where
  withName : α → String → α

/-- The identity of a declaration. -/
structure Key where
  name : String
  typeName : TypeName
  deriving DecidableEq

namespace Key

variable {α : Type} [Declared α]

/-- The key of a declaration. -/
def of (a : α) : Key :=
  ⟨Declared.name a, Declared.typeName a⟩

/-- Name first, then type. -/
def compare (a b : Key) : Ordering :=
  (Ord.compare a.name b.name).then (Ord.compare a.typeName.text b.typeName.text)

instance : Ord Key := ⟨compare⟩

/-- The positions of the declarations in the order of their keys; equal keys keep their order. -/
def sortedPositions (as : List α) : List Nat :=
  (as.zipIdx.mergeSort fun a b => (compare (of a.1) (of b.1)).isLE).map Prod.snd

end Key
end ComponentSpec
