import ComponentSpec.Param.KeyedSet

set_option autoImplicit false

/-! # A set holds each key once

The two views of a set agree: its index has a key exactly when an item has it, and no two items
share a key (`KeyedSet.Coherent`). The empty set is coherent and every insertion keeps a set so,
which makes the set of any list coherent (`KeyedSet.coherent_ofList`). A step that looks through the
items of such a set before it inserts is an insertion all the same, and a run of such steps a run of
insertions (`KeyedSet.Coherent.foldl_eq_foldl_insert`). -/

namespace ComponentSpec.KeyedSet

variable {α : Type} [Declared α]

/-- The index has the keys of the items, and no two items share one. -/
structure Coherent (s : KeyedSet α) : Prop where
  contains_iff : ∀ k, s.contains k = true ↔ k ∈ s.items.map Key.of
  nodup_keys : (s.items.map Key.of).Nodup

theorem coherent_empty : Coherent ({} : KeyedSet α) where
  contains_iff k := by simp [contains]
  nodup_keys := List.nodup_nil

/-! ## Insertion -/

/-- Where an entry is put in the index does not matter for what the index has. -/
theorem any_indexInsert (p : Key × Nat → Bool) (k : Key) (i : Nat) (l : List (Key × Nat)) :
    (indexInsert k i l).any p = (p (k, i) || l.any p) := by
  induction l with
  | nil => rfl
  | cons e rest ih =>
      rw [indexInsert]
      split
      · rfl
      · rw [List.any_cons, ih, List.any_cons, Bool.or_left_comm]

theorem contains_insert_of_new {s : KeyedSet α} {a : α} (h : s.contains (.of a) = false)
    (k : Key) : (s.insert a).2.contains k = (decide (Key.of a = k) || s.contains k) := by
  rw [insert, h]
  exact any_indexInsert ..

/-- **Insertion keeps a set coherent**: the index and the items gain the same key, and only one
that was in neither. -/
theorem Coherent.insert {s : KeyedSet α} (hs : s.Coherent) (a : α) : (s.insert a).2.Coherent := by
  cases hc : s.contains (.of a) with
  | true => rwa [insert_of_contains s a hc]
  | false =>
      have hitems : (s.insert a).2.items = s.items ++ [a] := by simp [items_insert, hc]
      have hnew : Key.of a ∉ s.items.map Key.of := by
        rw [← hs.contains_iff, hc]
        exact Bool.false_ne_true
      refine ⟨fun k => ?_, ?_⟩
      · rw [contains_insert_of_new hc, hitems, List.map_append, List.mem_append, Bool.or_eq_true,
          hs.contains_iff, decide_eq_true_iff, or_comm, List.map_singleton, List.mem_singleton,
          eq_comm]
      · rw [hitems, List.map_append, List.map_singleton]
        refine List.nodup_append.mpr ⟨hs.nodup_keys, List.pairwise_singleton .., ?_⟩
        intro k hk k' hk' heq
        rw [List.mem_singleton] at hk'
        exact hnew (hk' ▸ heq ▸ hk)

theorem Coherent.foldl_insert {s : KeyedSet α} (hs : s.Coherent) (as : List α) :
    (as.foldl (fun s a => (s.insert a).2) s).Coherent := by
  induction as generalizing s with
  | nil => exact hs
  | cons a as ih => exact ih (hs.insert a)

theorem coherent_ofList (as : List α) : (ofList as).Coherent :=
  coherent_empty.foldl_insert as

theorem ofList_concat (as : List α) (a : α) : ofList (as ++ [a]) = ((ofList as).insert a).2 := by
  unfold ofList
  rw [List.foldl_append, List.foldl_cons, List.foldl_nil]

/-! ## Insertion by the items -/

/-- To look for the key among the items first changes nothing about an insertion. -/
theorem Coherent.ite_any_eq_insert {s : KeyedSet α} (hs : s.Coherent) {q : α → Bool} {a : α}
    (hq : ∀ b, q b = true ↔ Key.of b = Key.of a) :
    (if s.items.any q then s else (s.insert a).2) = (s.insert a).2 := by
  have hany : s.items.any q = s.contains (.of a) := by
    rw [Bool.eq_iff_iff, hs.contains_iff, List.any_eq_true, List.mem_map]
    simp only [hq]
  rw [hany]
  cases hc : s.contains (.of a) with
  | true => rw [if_pos rfl, insert_of_contains _ _ hc]
  | false => rw [if_neg Bool.false_ne_true]

/-- **Simulation of a run**: steps that insert into coherent sets are a run of insertions. -/
theorem Coherent.foldl_eq_foldl_insert {β : Type} {step : KeyedSet α → β → KeyedSet α}
    {toItem : β → α} {s : KeyedSet α} (hs : s.Coherent) (bs : List β)
    (hstep : ∀ s, Coherent s → ∀ b ∈ bs, step s b = (s.insert (toItem b)).2) :
    bs.foldl step s = (bs.map toItem).foldl (fun s a => (s.insert a).2) s := by
  induction bs generalizing s with
  | nil => rfl
  | cons b bs ih =>
      rw [List.foldl_cons, List.map_cons, List.foldl_cons, hstep s hs b List.mem_cons_self]
      exact ih (hs.insert (toItem b)) fun s hs b hb => hstep s hs b (List.mem_cons_of_mem _ hb)

end ComponentSpec.KeyedSet
