import ComponentSpec.Param.Key

set_option autoImplicit false

/-! # Sets of declarations

A set holds one declaration of each key, the first that was inserted. It has two views: the items
in the order they were first seen, and an index from each key to its item's position, in key
order. `items_insert`: a declaration is appended unless its key is there. -/

namespace ComponentSpec

/-- Declarations with distinct keys. -/
structure KeyedSet (α : Type) where
  /-- The declarations in the order they were first seen. -/
  items : List α := []
  /-- The position of each key's item, the keys rising. -/
  index : List (Key × Nat) := []

namespace KeyedSet

variable {α : Type} [Declared α]

/-- Whether a declaration with this key is in the set. -/
def contains (s : KeyedSet α) (k : Key) : Bool :=
  s.index.any fun e => e.1 = k

/-- An index with one more key, put before the first greater one. -/
def indexInsert (k : Key) (i : Nat) : List (Key × Nat) → List (Key × Nat)
  | [] => [(k, i)]
  | e :: rest =>
    if (k.compare e.1).isLT then (k, i) :: e :: rest else e :: indexInsert k i rest

/-- The set with a declaration added, and whether its key was new; otherwise the set stays as it
is. -/
def insert (s : KeyedSet α) (a : α) : Bool × KeyedSet α :=
  if s.contains (.of a) then (false, s)
  else (true, ⟨s.items ++ [a], indexInsert (.of a) s.items.length s.index⟩)

theorem items_insert (s : KeyedSet α) (a : α) :
    (s.insert a).2.items = if s.contains (.of a) then s.items else s.items ++ [a] := by
  unfold insert
  split <;> rfl

theorem insert_of_contains (s : KeyedSet α) (a : α) (h : s.contains (.of a) = true) :
    (s.insert a).2 = s := by
  simp [insert, h]

/-- The set of a list's declarations. -/
def ofList (as : List α) : KeyedSet α :=
  as.foldl (fun s a => (s.insert a).2) {}

/-- The declarations in the order of their keys. -/
def inKeyOrder (s : KeyedSet α) : List α :=
  s.index.filterMap fun e => s.items[e.2]?

end KeyedSet

/-- The first declaration of each key, in the order of the list. -/
def firstOfEach {α : Type} [Declared α] (as : List α) : List α :=
  (KeyedSet.ofList as).items

/-- The first declaration of each key, in key order. -/
def inKeyOrder {α : Type} [Declared α] (as : List α) : List α :=
  (KeyedSet.ofList as).inKeyOrder

end ComponentSpec
