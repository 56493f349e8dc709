import ComponentSpec.Proofs.KeyedSet
import Mathlib.Data.List.Sort
import Mathlib.Data.String.Basic

set_option autoImplicit false

/-! # Lists in key order

A set is listed by its index. The index has one entry for each item, with the item's position, and
its keys rise (`KeyedSet.Indexed`), so this list has every item once and in key order. Of the
declarations with one key the set has the first, whatever comes between them. Both together fix
the list that is made of any declarations: `mem_inKeyOrder_iff` says what is on it and
`keysRise_inKeyOrder` in which order. -/

namespace ComponentSpec

/-! ## The order of keys -/

namespace Key

/-- The first key stands before the second: by its name, or with the same name by its type. -/
def Before (a b : Key) : Prop :=
  a.name < b.name ∨ a.name = b.name ∧ a.typeName.text < b.typeName.text

theorem compare_eq_lt_iff {a b : Key} : a.compare b = .lt ↔ a.Before b := by
  rw [compare, Ordering.then_eq_lt, compare_lt_iff_lt, compare_eq_iff_eq, compare_lt_iff_lt, Before]

theorem Before.trans {a b c : Key} (hab : a.Before b) (hbc : b.Before c) : a.Before c := by
  rcases hab with hab | ⟨hab, hab'⟩
  · rcases hbc with hbc | ⟨hbc, -⟩
    · exact Or.inl (hab.trans hbc)
    · exact Or.inl (hbc ▸ hab)
  · rcases hbc with hbc | ⟨hbc, hbc'⟩
    · exact Or.inl (hab ▸ hbc)
    · exact Or.inr ⟨hab.trans hbc, hab'.trans hbc'⟩

theorem not_before_self (k : Key) : ¬ k.Before k := by
  rintro (h | ⟨-, h⟩)
  · exact lt_irrefl _ h
  · exact lt_irrefl _ h

instance : Std.Asymm Before :=
  ⟨fun a _ hab hba => not_before_self a (hab.trans hba)⟩

/-- Of two keys one stands before the other. -/
theorem before_of_not_before {a b : Key} (hne : b ≠ a) (h : ¬ b.Before a) : a.Before b := by
  rw [Before, not_or] at h
  obtain ⟨hname, htype⟩ := h
  rcases lt_or_eq_of_le (not_lt.1 hname) with hlt | heq
  · exact Or.inl hlt
  · rcases lt_trichotomy a.typeName.text b.typeName.text with hlt | heq' | hgt
    · exact Or.inr ⟨heq, hlt⟩
    · refine absurd ?_ hne
      obtain ⟨aname, ⟨atype⟩⟩ := a
      obtain ⟨bname, ⟨btype⟩⟩ := b
      exact congrArg₂ (fun n t => Key.mk n ⟨t⟩) heq.symm heq'.symm
    · exact absurd ⟨heq.symm, hgt⟩ htype

end Key

/-- The keys of the declarations rise, so no two are equal. -/
def KeysRise {α : Type} [Declared α] (as : List α) : Prop :=
  as.Pairwise fun a b => (Key.of a).Before (.of b)

/-- **Keys in rising order are fixed by the set of them.** -/
theorem map_key_eq_of_keysRise {α : Type} [Declared α] {as bs : List α} (has : KeysRise as)
    (hbs : KeysRise bs) (h : ∀ k, k ∈ as.map Key.of ↔ k ∈ bs.map Key.of) :
    as.map Key.of = bs.map Key.of := by
  have has' : (as.map Key.of).Pairwise Key.Before := List.pairwise_map.2 has
  have hbs' : (bs.map Key.of).Pairwise Key.Before := List.pairwise_map.2 hbs
  exact has'.eq_of_mem_iff hbs' h

/-! ## Looking for a key -/

section

variable {α : Type} [Declared α]

/-- A key that occurs is found, in a declaration that has it. -/
theorem exists_find?_of_mem_map_key {as : List α} {k : Key} (h : k ∈ as.map Key.of) :
    ∃ a, as.find? (fun b => Key.of b = k) = some a ∧ a ∈ as ∧ Key.of a = k := by
  obtain ⟨b, hb, hkey⟩ := List.mem_map.1 h
  have hfound : (as.find? fun b => Key.of b = k).isSome = true :=
    List.find?_isSome.2 ⟨b, hb, decide_eq_true hkey⟩
  obtain ⟨a, ha⟩ := Option.isSome_iff_exists.1 hfound
  exact ⟨a, ha, List.mem_of_find?_eq_some ha, by simpa using List.find?_some ha⟩

/-- Where no two share a key, a declaration is found under its key. -/
theorem mem_iff_find?_of_nodup {as : List α} (h : (as.map Key.of).Nodup) (a : α) :
    a ∈ as ↔ as.find? (fun b => Key.of b = Key.of a) = some a := by
  constructor
  · intro ha
    obtain ⟨b, hfound, hb, hkey⟩ := exists_find?_of_mem_map_key (List.mem_map_of_mem ha)
    rw [hfound, List.inj_on_of_nodup_map h hb ha hkey]
  · exact List.mem_of_find?_eq_some

end

namespace KeyedSet

variable {α : Type} [Declared α] {s : KeyedSet α}

/-! ## The index of a set -/

theorem perm_indexInsert (k : Key) (i : Nat) (l : List (Key × Nat)) :
    (indexInsert k i l).Perm ((k, i) :: l) := by
  induction l with
  | nil => exact .refl _
  | cons e rest ih =>
      rw [indexInsert]
      split
      · exact .refl _
      · exact (ih.cons e).trans (.swap ..)

theorem rising_indexInsert {k : Key} (i : Nat) {l : List (Key × Nat)}
    (hl : l.Pairwise fun d e => d.1.Before e.1) (hk : ∀ e ∈ l, e.1 ≠ k) :
    (indexInsert k i l).Pairwise fun d e => d.1.Before e.1 := by
  induction l with
  | nil => exact List.pairwise_singleton ..
  | cons e rest ih =>
      obtain ⟨he, hrest⟩ := List.pairwise_cons.1 hl
      obtain ⟨hek, hk⟩ := List.forall_mem_cons.1 hk
      rw [indexInsert]
      split
      · next hlt =>
          have hke : k.Before e.1 := Key.compare_eq_lt_iff.1 (Ordering.isLT_iff_eq_lt.1 hlt)
          refine List.pairwise_cons.2 ⟨fun d hd => ?_, hl⟩
          rcases List.mem_cons.1 hd with rfl | hd
          · exact hke
          · exact hke.trans (he d hd)
      · next hlt =>
          rw [Ordering.isLT_iff_eq_lt, Key.compare_eq_lt_iff] at hlt
          refine List.pairwise_cons.2 ⟨fun d hd => ?_, ih hrest hk⟩
          rcases List.mem_cons.1 ((perm_indexInsert k i rest).mem_iff.1 hd) with rfl | hd
          · exact Key.before_of_not_before hek.symm hlt
          · exact he d hd

/-- The index has an entry for each item, with the item's key and position, and its keys rise. -/
structure Indexed (s : KeyedSet α) : Prop where
  rising : s.index.Pairwise fun d e => d.1.Before e.1
  perm : s.index.Perm (s.items.zipIdx.map fun e => (Key.of e.1, e.2))

theorem indexed_empty : Indexed ({} : KeyedSet α) where
  rising := List.Pairwise.nil
  perm := .refl _

/-- **Insertion keeps the index true to the items**: a new item goes behind the others, and its
entry between those of the smaller and the greater keys. -/
theorem Indexed.insert (hs : s.Indexed) (a : α) : (s.insert a).2.Indexed := by
  cases hc : s.contains (.of a) with
  | true => rwa [insert_of_contains s a hc]
  | false =>
      have hnew : ∀ e ∈ s.index, e.1 ≠ Key.of a := by
        simpa [contains] using hc
      have hinsert : (s.insert a).2
          = ⟨s.items ++ [a], indexInsert (.of a) s.items.length s.index⟩ := by
        simp [KeyedSet.insert, hc]
      rw [hinsert]
      refine ⟨rising_indexInsert _ hs.rising hnew, ?_⟩
      rw [List.zipIdx_append, List.map_append]
      refine (perm_indexInsert ..).trans ((hs.perm.cons _).trans ?_)
      rw [Nat.zero_add]
      exact (List.perm_append_singleton ..).symm

theorem Indexed.foldl_insert (hs : s.Indexed) (as : List α) :
    (as.foldl (fun s a => (s.insert a).2) s).Indexed := by
  induction as generalizing s with
  | nil => exact hs
  | cons a as ih => exact ih (hs.insert a)

theorem indexed_ofList (as : List α) : (ofList as).Indexed :=
  indexed_empty.foldl_insert as

/-! ## Listing by index -/

/-- Every entry of the index leads to an item with its key. -/
theorem Indexed.map_key_getElem? (hs : s.Indexed) {e : Key × Nat} (he : e ∈ s.index) :
    s.items[e.2]?.map Key.of = some e.1 := by
  obtain ⟨⟨a, i⟩, ha, rfl⟩ := List.mem_map.1 (hs.perm.mem_iff.1 he)
  rw [List.mem_zipIdx_iff_getElem?.1 ha, Option.map_some]

theorem Indexed.map_key_inKeyOrder (hs : s.Indexed) :
    s.inKeyOrder.map Key.of = s.index.map Prod.fst := by
  rw [inKeyOrder, List.map_filterMap, ← List.filterMap_eq_map]
  exact List.filterMap_congr fun e he => hs.map_key_getElem? he

theorem Indexed.keysRise_inKeyOrder (hs : s.Indexed) : KeysRise s.inKeyOrder := by
  rw [KeysRise, ← List.pairwise_map (R := Key.Before), hs.map_key_inKeyOrder, List.pairwise_map]
  exact hs.rising

/-- **Listing by index loses no item and doubles none.** -/
theorem Indexed.perm_inKeyOrder (hs : s.Indexed) : s.inKeyOrder.Perm s.items := by
  refine (hs.perm.filterMap _).trans (.of_eq ?_)
  rw [List.filterMap_map]
  calc s.items.zipIdx.filterMap (fun e => s.items[e.2]?)
      = s.items.zipIdx.filterMap (some ∘ Prod.fst) :=
        List.filterMap_congr fun e he => List.mem_zipIdx_iff_getElem?.1 he
    _ = s.items := by rw [List.filterMap_eq_map, List.zipIdx_map_fst]

/-! ## The first declaration of each key -/

/-- A set that is given one more declaration has, of each key, what the items and the declaration
behind them have first. -/
theorem Coherent.find?_insert (hs : s.Coherent) (a : α) (k : Key) :
    (s.insert a).2.items.find? (fun b => Key.of b = k)
      = (s.items ++ [a]).find? fun b => Key.of b = k := by
  rw [items_insert]
  cases hc : s.contains (.of a) with
  | false => rfl
  | true =>
      rw [if_pos rfl, List.find?_append]
      by_cases hk : Key.of a = k
      · -- The set has an item of this key already, and that one is found before `a`.
        obtain ⟨b, hfound, -⟩ := exists_find?_of_mem_map_key (hk ▸ (hs.contains_iff _).1 hc)
        rw [hfound, Option.some_or]
      · rw [List.find?_cons_of_neg (by simpa using hk), List.find?_nil, Option.or_none]

theorem Coherent.find?_foldl_insert (hs : s.Coherent) (as : List α) (k : Key) :
    (as.foldl (fun s a => (s.insert a).2) s).items.find? (fun b => Key.of b = k)
      = (s.items ++ as).find? fun b => Key.of b = k := by
  induction as generalizing s with
  | nil => rw [List.append_nil]; rfl
  | cons a as ih =>
      rw [List.foldl_cons, ih (hs.insert a), List.find?_append, hs.find?_insert,
        ← List.find?_append, List.append_assoc, List.singleton_append]

end KeyedSet

section

variable {α : Type} [Declared α]

/-- **Of each key the first declaration stays.** -/
theorem find?_firstOfEach (as : List α) (k : Key) :
    (firstOfEach as).find? (fun b => Key.of b = k) = as.find? fun b => Key.of b = k :=
  KeyedSet.coherent_empty.find?_foldl_insert as k

theorem keysRise_inKeyOrder (as : List α) : KeysRise (inKeyOrder as) :=
  (KeyedSet.indexed_ofList as).keysRise_inKeyOrder

/-- **What is listed in key order**: each declaration that is the first of its key. -/
theorem mem_inKeyOrder_iff (as : List α) (a : α) :
    a ∈ inKeyOrder as ↔ as.find? (fun b => Key.of b = Key.of a) = some a := by
  rw [inKeyOrder, (KeyedSet.indexed_ofList as).perm_inKeyOrder.mem_iff,
    mem_iff_find?_of_nodup (KeyedSet.coherent_ofList as).nodup_keys]
  exact Iff.of_eq (congrArg (· = some a) (find?_firstOfEach as _))

/-- Every key has its declaration on the list. -/
theorem mem_map_key_inKeyOrder_iff (as : List α) (k : Key) :
    k ∈ (inKeyOrder as).map Key.of ↔ k ∈ as.map Key.of := by
  rw [List.mem_map, List.mem_map]
  constructor
  · rintro ⟨a, ha, rfl⟩
    exact ⟨a, List.mem_of_find?_eq_some ((mem_inKeyOrder_iff as a).1 ha), rfl⟩
  · intro hk
    obtain ⟨b, hfound, -, rfl⟩ := exists_find?_of_mem_map_key (List.mem_map.2 hk)
    exact ⟨b, (mem_inKeyOrder_iff as b).2 hfound, rfl⟩

end

end ComponentSpec
