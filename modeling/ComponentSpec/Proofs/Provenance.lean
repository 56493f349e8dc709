import ComponentSpec.Proofs.DeclaredDiffs

set_option autoImplicit false

/-! # Where the final props come from

Each final prop is one of the raw props in a new name, and nothing but the names decides which of
them are kept. `renamedProps` lists the raw props under the names that they take, and
`KeptPositions` says which positions of this list stay: a declared prop if none before it has its
name and type, what a diff wraps if no kept one before it is the prop that the diff stands for.
Only one list of positions fits (`KeptPositions.unique`), and `finalProps_at_keptPositions` reads
the final props off at its positions. -/

namespace ComponentSpec

/-! ## The raw props under their new names -/

/-- The declared props, then what each diff wraps, each under the name cached for its position or
else under its own. -/
def renamedProps (raw : List PropParam) (diffs : List PropDiff) (cache : NameCache) :
    List PropParam :=
  (raw.take (raw.length - diffs.length) ++ diffs.map (·.underlying)).mapIdx fun i p =>
    { p with name := (cache.get? i).getD p.name }

section

variable {raw : List PropParam} {diffs : List PropDiff} {cache : NameCache}

theorem length_declaredPart : (raw.take (raw.length - diffs.length)).length
    = raw.length - diffs.length := by
  rw [List.length_take]
  omega

theorem length_renamedProps :
    (renamedProps raw diffs cache).length = raw.length - diffs.length + diffs.length := by
  rw [renamedProps, List.length_mapIdx, List.length_append, List.length_map, length_declaredPart]

end

/-- The candidates for the final props. -/
def propCandidates (raw : List PropParam) (diffs : List PropDiff) (cache : NameCache) :
    List Candidate :=
  candidates (raw.take (raw.length - diffs.length)) diffs cache

section

variable {raw : List PropParam} {diffs : List PropDiff} {cache : NameCache}

theorem getElem?_renamedProps (i : Nat) :
    (renamedProps raw diffs cache)[i]? = (propCandidates raw diffs cache)[i]?.map (·.prop) := by
  rw [renamedProps, propCandidates, List.getElem?_mapIdx, getElem?_candidates, Option.map_map]
  simp only [Function.comp_def, NameCache.rename_eq_withName]
  rfl

/-- A candidate stands at its position. -/
theorem getElem?_position {c : Candidate} (hc : c ∈ propCandidates raw diffs cache) :
    (propCandidates raw diffs cache)[c.position]? = some c := by
  obtain ⟨p, hp, heq⟩ := exists_of_mem_candidates hc
  rw [propCandidates, getElem?_candidates, hp, Option.map_some, ← heq]

theorem getElem?_renamedProps_position {c : Candidate}
    (hc : c ∈ propCandidates raw diffs cache) :
    (renamedProps raw diffs cache)[c.position]? = some c.prop := by
  rw [getElem?_renamedProps, getElem?_position hc, Option.map_some]

theorem exists_candidate_of_getElem? {i : Nat} {p : PropParam}
    (hp : (renamedProps raw diffs cache)[i]? = some p) :
    ∃ c ∈ propCandidates raw diffs cache, c.position = i ∧ c.prop = p := by
  rw [getElem?_renamedProps, Option.map_eq_some_iff] at hp
  obtain ⟨c, hc, rfl⟩ := hp
  refine ⟨c, List.mem_of_getElem? hc, ?_, rfl⟩
  rw [propCandidates, getElem?_candidates, Option.map_eq_some_iff] at hc
  obtain ⟨p, -, rfl⟩ := hc
  rfl

theorem pairwise_position_propCandidates :
    (propCandidates raw diffs cache).Pairwise (·.position < ·.position) :=
  pairwise_position_candidates ..

/-- Below the diffs' positions a candidate is a declared prop and has no other name. -/
theorem mergesInto_iff_of_position_lt {c : Candidate} (hc : c ∈ propCandidates raw diffs cache)
    (hlt : c.position < raw.length - diffs.length) {q : PropParam} :
    c.mergesInto q = true ↔ q.name = c.prop.name ∧ q.typeName = c.prop.typeName := by
  obtain ⟨p, -, heq⟩ := exists_of_mem_candidates hc
  have hother : c.otherName = none := by
    rw [congrArg Candidate.otherName heq]
    exact if_pos (length_declaredPart.symm ▸ hlt)
  rw [Candidate.mergesInto_iff, hother]
  simp

theorem wrapped_mem_propCandidates {j : Nat} {d : PropDiff} (hd : diffs[j]? = some d) :
    Candidate.wrapped cache (raw.length - diffs.length + j) d
      ∈ propCandidates raw diffs cache := by
  refine List.mem_append_right _ (mem_wrappedCandidates_iff.2 ⟨j, d, hd, ?_⟩)
  rw [length_declaredPart]

/-- A candidate gives way, if not to itself, to a survivor before it. -/
theorem exists_survivor_le {c : Candidate} (hc : c ∈ propCandidates raw diffs cache) :
    ∃ k ∈ survivors (propCandidates raw diffs cache),
      k.position ≤ c.position ∧ c.mergesInto k.prop = true := by
  by_cases hsurvives : c ∈ survivors (propCandidates raw diffs cache)
  · exact ⟨c, hsurvives, Nat.le_refl _, Candidate.mergesInto_of_key_eq rfl⟩
  · rw [mem_survivors_iff pairwise_position_propCandidates hc] at hsurvives
    push Not at hsurvives
    obtain ⟨k, hk, hlt, hmerges⟩ := hsurvives
    exact ⟨k, hk, Nat.le_of_lt hlt, Bool.eq_true_of_not_eq_false hmerges⟩

end

/-! ## The positions that are kept -/

/-- The positions whose renamed props are kept, rising. -/
structure KeptPositions (raw : List PropParam) (diffs : List PropDiff) (cache : NameCache)
    (kept : List Nat) : Prop where
  rising : kept.Pairwise (· < ·)
  lt_length : ∀ i ∈ kept, i < (renamedProps raw diffs cache).length
  /-- A declared prop is kept exactly if none before it, kept or not, has its name and type. -/
  declared : ∀ i p, i < raw.length - diffs.length → (renamedProps raw diffs cache)[i]? = some p →
    (i ∈ kept ↔ ∀ k < i, ∀ q, (renamedProps raw diffs cache)[k]? = some q →
      ¬ (q.name = p.name ∧ q.typeName = p.typeName))
  /-- What a diff wraps is kept exactly if no kept prop before it has its type and the name that
  the diff declares or the name cached for its position. -/
  wrapped : ∀ j d, diffs[j]? = some d →
    (raw.length - diffs.length + j ∈ kept ↔
      ∀ k ∈ kept, k < raw.length - diffs.length + j →
        ∀ q, (renamedProps raw diffs cache)[k]? = some q →
          ¬ (q.typeName = d.underlying.typeName ∧ (q.name = d.underlying.name
            ∨ cache.get? (raw.length - diffs.length + j) = some q.name)))

section

variable {raw : List PropParam} {diffs : List PropDiff} {cache : NameCache}

/-- **The kept positions are fixed by what they have to be.** -/
theorem KeptPositions.unique {kept kept' : List Nat}
    (h : KeptPositions raw diffs cache kept) (h' : KeptPositions raw diffs cache kept') :
    kept = kept' := by
  refine eq_of_decided_before h.rising h'.rising fun i hbefore => ?_
  by_cases hlength : i < (renamedProps raw diffs cache).length
  · by_cases hi : i < raw.length - diffs.length
    · have hp := List.getElem?_eq_getElem hlength
      rw [h.declared i _ hi hp, h'.declared i _ hi hp]
    · obtain ⟨j, rfl⟩ := Nat.exists_eq_add_of_le (Nat.le_of_not_lt hi)
      rw [length_renamedProps] at hlength
      have hd := List.getElem?_eq_getElem (Nat.lt_of_add_lt_add_left hlength)
      rw [h.wrapped j _ hd, h'.wrapped j _ hd, forall_mem_before_congr hbefore]
  · exact iff_of_false (fun hkept => hlength (h.lt_length i hkept))
      fun hkept => hlength (h'.lt_length i hkept)

theorem PropDiff.wraps_iff {d : PropDiff} {cached : Option String} {q : PropParam} :
    d.wraps cached q = true ↔
      q.typeName = d.underlying.typeName ∧ (q.name = d.underlying.name ∨ cached = some q.name) := by
  simp [wraps, and_comm]

/-- The positions of the survivors. -/
def keptPositions (raw : List PropParam) (diffs : List PropDiff) (cache : NameCache) : List Nat :=
  (survivors (propCandidates raw diffs cache)).map (·.position)

theorem mem_propCandidates_of_mem_survivors {c : Candidate}
    (hc : c ∈ survivors (propCandidates raw diffs cache)) : c ∈ propCandidates raw diffs cache :=
  (survivors_sublist _).mem hc

theorem position_mem_keptPositions_iff {c : Candidate} (hc : c ∈ propCandidates raw diffs cache) :
    c.position ∈ keptPositions raw diffs cache ↔
      ∀ k ∈ survivors (propCandidates raw diffs cache), k.position < c.position →
        c.mergesInto k.prop = false :=
  position_mem_survivors_iff pairwise_position_propCandidates hc

theorem position_mem_keptPositions_iff_declared {c : Candidate}
    (hc : c ∈ propCandidates raw diffs cache) (hlt : c.position < raw.length - diffs.length) :
    c.position ∈ keptPositions raw diffs cache ↔
      ∀ k < c.position, ∀ q, (renamedProps raw diffs cache)[k]? = some q →
        ¬ (q.name = c.prop.name ∧ q.typeName = c.prop.typeName) := by
  rw [position_mem_keptPositions_iff hc]
  constructor
  · rintro hnone k hk q hq ⟨hname, htype⟩
    obtain ⟨c', hc', rfl, rfl⟩ := exists_candidate_of_getElem? hq
    -- The declared prop may be merged away itself, but then into one of the same name and type.
    obtain ⟨s, hs, hle, hmerges⟩ := exists_survivor_le hc'
    obtain ⟨hname', htype'⟩ := (mergesInto_iff_of_position_lt hc' (hk.trans hlt)).1 hmerges
    have hkey := Candidate.mergesInto_of_key_eq
      (keyOf_eq_iff.2 ⟨hname'.trans hname, htype'.trans htype⟩)
    rw [hnone s hs (Nat.lt_of_le_of_lt hle hk)] at hkey
    exact Bool.false_ne_true hkey
  · intro hnone k hk hpos
    rw [Bool.eq_false_iff, Ne, mergesInto_iff_of_position_lt hc hlt]
    exact hnone k.position hpos k.prop
      (getElem?_renamedProps_position (mem_propCandidates_of_mem_survivors hk))

theorem position_mem_keptPositions_iff_wrapped {j : Nat} {d : PropDiff} (hd : diffs[j]? = some d) :
    raw.length - diffs.length + j ∈ keptPositions raw diffs cache ↔
      ∀ k ∈ keptPositions raw diffs cache, k < raw.length - diffs.length + j →
        ∀ q, (renamedProps raw diffs cache)[k]? = some q →
          ¬ (q.typeName = d.underlying.typeName ∧ (q.name = d.underlying.name
            ∨ cache.get? (raw.length - diffs.length + j) = some q.name)) := by
  refine (position_mem_keptPositions_iff (wrapped_mem_propCandidates hd)).trans ?_
  constructor
  · intro hnone k hk hlt q hq hwraps
    obtain ⟨s, hs, rfl⟩ := List.mem_map.1 hk
    have hfalse := hnone s hs hlt
    rw [getElem?_renamedProps_position (mem_propCandidates_of_mem_survivors hs)] at hq
    rw [Option.some.inj hq, ← Candidate.wraps_eq_mergesInto, PropDiff.wraps_iff.2 hwraps] at hfalse
    exact Bool.false_ne_true hfalse.symm
  · intro hnone s hs hlt
    rw [← Candidate.wraps_eq_mergesInto, Bool.eq_false_iff, Ne, PropDiff.wraps_iff]
    exact hnone s.position (List.mem_map_of_mem hs) hlt s.prop
      (getElem?_renamedProps_position (mem_propCandidates_of_mem_survivors hs))

/-- **The survivors stand at the kept positions.** -/
theorem keptPositions_spec (raw : List PropParam) (diffs : List PropDiff) (cache : NameCache) :
    KeptPositions raw diffs cache (keptPositions raw diffs cache) where
  rising := pairwise_position_survivors pairwise_position_propCandidates
  lt_length i hi := by
    obtain ⟨c, hc, rfl⟩ := List.mem_map.1 hi
    have hget := getElem?_renamedProps_position (mem_propCandidates_of_mem_survivors hc)
    exact (List.getElem?_eq_some_iff.1 hget).1
  declared i p hi hp := by
    obtain ⟨c, hc, rfl, rfl⟩ := exists_candidate_of_getElem? hp
    exact position_mem_keptPositions_iff_declared hc hi
  wrapped _ _ hd := position_mem_keptPositions_iff_wrapped hd

end

/-! ## The final props -/

/-- **Provenance of the final props.** There is exactly one list of kept positions, and the final
props are the renamed props at these positions, in this order, and all that they have but their
names is as declared. Every diff finds a final prop that it wraps. -/
theorem finalProps_at_keptPositions (raw : List PropParam) (diffs : List PropDiff)
    (cache : NameCache) :
    ∃ kept, KeptPositions raw diffs cache kept
      ∧ (∀ kept', KeptPositions raw diffs cache kept' → kept' = kept)
      ∧ (finalProps raw diffs cache).map some
        = kept.map (fun i => (renamedProps raw diffs cache)[i]?)
      ∧ ∀ j (d : PropDiff), diffs[j]? = some d → ∃ p ∈ finalProps raw diffs cache,
          d.wraps (cache.get? (raw.length - diffs.length + j)) p = true := by
  have hsurvivors : finalProps raw diffs cache
      = (survivors (propCandidates raw diffs cache)).map (·.prop) :=
    finalProps_eq_survivors raw diffs cache
  have hspec := keptPositions_spec raw diffs cache
  refine ⟨keptPositions raw diffs cache, hspec, fun kept' h => h.unique hspec, ?_, ?_⟩
  · rw [hsurvivors, keptPositions, List.map_map, List.map_map]
    refine List.map_congr_left fun c hc => ?_
    exact (getElem?_renamedProps_position (mem_propCandidates_of_mem_survivors hc)).symm
  · intro j d hd
    have hmem : _ ∈ propCandidates raw diffs cache := wrapped_mem_propCandidates hd
    obtain ⟨k, hk, hmerges⟩ := exists_survivor hmem
    rw [← Candidate.wraps_eq_mergesInto] at hmerges
    exact ⟨k.prop, hsurvivors ▸ List.mem_map_of_mem hk, hmerges⟩

end ComponentSpec
