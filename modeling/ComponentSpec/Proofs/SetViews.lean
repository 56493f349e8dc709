import ComponentSpec.Proofs.FirstOccurrences

set_option autoImplicit false

/-! # The two views of a set

A set that was filled by insertions has its items twice: in the order they came, and by key in the
index. The index is a map from the keys to the positions of the items, one to one
(`KeyedSet.Indexed.mem_index_iff`, `KeyedSet.Indexed.perm_positions`). So the set may be emptied
along the index, each item taken out of its slot: no slot is asked for twice, none is left full, and
what comes out is the list in key order (`KeyedSet.Indexed.takeSlots_index`). -/

namespace ComponentSpec.KeyedSet

/-! ## The index as a map -/

section

variable {α : Type} [Declared α] {s : KeyedSet α}

/-- A key has an entry with the position of the item that has the key, and no other entry. -/
theorem Indexed.mem_index_iff (hs : s.Indexed) {k : Key} {i : Nat} :
    (k, i) ∈ s.index ↔ s.items[i]?.map Key.of = some k := by
  constructor
  · intro he
    exact hs.map_key_getElem? he
  · intro hitem
    obtain ⟨a, ha, rfl⟩ := Option.map_eq_some_iff.1 hitem
    exact hs.perm.mem_iff.2 (List.mem_map.2 ⟨(a, i), List.mem_zipIdx_iff_getElem?.2 ha, rfl⟩)

/-- **Each position is in the index once.** -/
theorem Indexed.perm_positions (hs : s.Indexed) :
    (s.index.map Prod.snd).Perm (List.range s.items.length) := by
  refine (hs.perm.map Prod.snd).trans (.of_eq ?_)
  rw [List.map_map, List.range_eq_range', ← List.zipIdx_map_snd]
  rfl

/-- **Each key of an item is in the index once.** -/
theorem Indexed.perm_keys (hs : s.Indexed) :
    (s.index.map Prod.fst).Perm (s.items.map Key.of) := by
  refine (hs.perm.map Prod.fst).trans (.of_eq ?_)
  rw [List.map_map]
  calc s.items.zipIdx.map (Prod.fst ∘ fun e => (Key.of e.1, e.2))
      = (s.items.zipIdx.map Prod.fst).map Key.of := by
        rw [List.map_map]
        rfl
    _ = s.items.map Key.of := by rw [List.zipIdx_map_fst]

end

/-! ## Emptying slots -/

section

variable {α : Type}

/-- What is taken out of slots, one position after the other. A slot is empty once its item has been
taken, and an empty slot gives nothing, nor does a position without a slot. -/
def takeSlots : (slots : List (Option α)) → (positions : List Nat) → List α
  | _, [] => []
  | slots, i :: positions =>
    match slots[i]?.join with
    | some a => a :: takeSlots (slots.set i none) positions
    | none => takeSlots slots positions

/-- Where no position comes twice, each gives what was in its slot at first. -/
theorem takeSlots_eq_filterMap {slots : List (Option α)} {positions : List Nat}
    (h : positions.Nodup) :
    takeSlots slots positions = positions.filterMap fun i => slots[i]?.join := by
  induction positions generalizing slots with
  | nil => rfl
  | cons i positions ih =>
      obtain ⟨hi, hrest⟩ := List.nodup_cons.1 h
      rw [takeSlots, List.filterMap_cons]
      cases slots[i]?.join with
      | none => exact ih hrest
      | some a =>
          -- The slot that is emptied is none of those that are still to be asked.
          have hlater : positions.filterMap (fun j => (slots.set i none)[j]?.join)
              = positions.filterMap fun j => slots[j]?.join := by
            refine List.filterMap_congr fun j hj => ?_
            rw [List.getElem?_set_ne]
            rintro rfl
            exact hi hj
          show a :: takeSlots (slots.set i none) positions = _
          rw [ih hrest, hlater]

-- A position that comes again, or that has no slot, is passed over.
example : takeSlots [some 'a', some 'b'] [1, 1, 7, 0] = ['b', 'a'] := by decide

end

/-! ## Sets that were filled by insertions -/

section

variable {α : Type} [Declared α] {s : KeyedSet α}

/-- **Emptying a set along its index lists it in key order.** -/
theorem Indexed.takeSlots_index (hs : s.Indexed) :
    takeSlots (s.items.map some) (s.index.map Prod.snd) = s.inKeyOrder := by
  have hnodup : (s.index.map Prod.snd).Nodup := hs.perm_positions.nodup_iff.2 List.nodup_range
  rw [takeSlots_eq_filterMap hnodup, List.filterMap_map, inKeyOrder]
  refine List.filterMap_congr fun e _ => ?_
  rw [Function.comp_apply, List.getElem?_map]
  cases s.items[e.2]? <;> rfl

theorem contains_ofList_iff (as : List α) (k : Key) :
    (ofList as).contains k = true ↔ k ∈ as.map Key.of := by
  rw [(coherent_ofList as).contains_iff, ← mem_map_key_firstOccurrences_iff as,
    ← firstOfEach_eq_firstOccurrences]
  rfl

/-- **An insertion succeeds exactly for a new key**, and otherwise leaves the set as it is. -/
theorem insert_ofList (as : List α) (a : α) :
    (ofList as).insert a
      = if Key.of a ∈ as.map Key.of then (false, ofList as) else (true, ofList (as ++ [a])) := by
  rw [ofList_concat]
  by_cases hold : Key.of a ∈ as.map Key.of
  · have hcontains := (contains_ofList_iff as (.of a)).2 hold
    rw [if_pos hold, insert, if_pos hcontains]
  · have hnew : ¬ (ofList as).contains (.of a) = true := mt (contains_ofList_iff as (.of a)).1 hold
    rw [if_neg hold, insert, if_neg hnew]

/-- **The views of a set agree, whatever was inserted.** After any insertions, begun with the empty
set: an entry of the index is a key with the position of the item that has it, every key of an item
and every position of one is in the index once, and the keys in the index rise. The insertion that
comes next answers that the key is new exactly if nothing with that key was inserted before, and
otherwise leaves the set as it is. The items are the first that came of each key, in the order they
came. Taken out of their slots along the index they are all there, each once, and their keys
rise. -/
theorem views_ofList (as : List α) :
    (∀ k i, (k, i) ∈ (ofList as).index ↔ (ofList as).items[i]?.map Key.of = some k)
      ∧ ((ofList as).index.map Prod.fst).Perm ((ofList as).items.map Key.of)
      ∧ ((ofList as).index.map Prod.snd).Perm (List.range (ofList as).items.length)
      ∧ ((ofList as).index.map Prod.fst).Pairwise Key.Before
      ∧ (∀ a, (ofList as).insert a
        = if Key.of a ∈ as.map Key.of then (false, ofList as) else (true, ofList (as ++ [a])))
      ∧ (ofList as).items = firstOccurrences as
      ∧ takeSlots ((ofList as).items.map some) ((ofList as).index.map Prod.snd)
        = (ofList as).inKeyOrder
      ∧ (ofList as).inKeyOrder.Perm (ofList as).items
      ∧ KeysRise (ofList as).inKeyOrder := by
  have hs := indexed_ofList as
  refine ⟨fun k i => hs.mem_index_iff, hs.perm_keys, hs.perm_positions, ?_, insert_ofList as,
    firstOfEach_eq_firstOccurrences as, hs.takeSlots_index, hs.perm_inKeyOrder,
    hs.keysRise_inKeyOrder⟩
  exact List.pairwise_map.2 hs.rising

end

end ComponentSpec.KeyedSet
