import ComponentSpec.Param.Basic

set_option autoImplicit false

/-! # Cached names

The names that props and inject props had in an earlier build, by position: those of the props
first, those of the inject props after them. A position without a name keeps the declared one. -/

namespace ComponentSpec

/-- Names by position. -/
structure NameCache where
  names : List String := []
  deriving DecidableEq

namespace NameCache

/-- The name at a position. -/
def get? (c : NameCache) (i : Nat) : Option String :=
  c.names[i]?

def size (c : NameCache) : Nat :=
  c.names.length

def isEmpty (c : NameCache) : Bool :=
  c.names.isEmpty

/-- The declaration under the name cached for the position, if there is one. -/
def rename {α : Type} [Renamable α] (c : NameCache) (i : Nat) (a : α) : α :=
  match c.get? i with
  | some n => Renamable.withName a n
  | none => a

/-- Declarations at successive positions, each under its cached name. -/
def renameFrom {α : Type} [Renamable α] (c : NameCache) (start : Nat) (as : List α) : List α :=
  as.mapIdx fun i a => c.rename (start + i) a

@[simp] theorem length_renameFrom {α : Type} [Renamable α] (c : NameCache) (start : Nat)
    (as : List α) : (c.renameFrom start as).length = as.length := by
  simp [renameFrom]

theorem getElem?_renameFrom {α : Type} [Renamable α] (c : NameCache) (start : Nat) (as : List α)
    (i : Nat) : (c.renameFrom start as)[i]? = as[i]?.map (c.rename (start + i)) := by
  simp [renameFrom]

def codec : Codec NameCache :=
  Codec.text.list.as mk names

end NameCache
end ComponentSpec
