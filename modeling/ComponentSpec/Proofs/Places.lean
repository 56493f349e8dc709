import ComponentSpec.Proofs.Build

set_option autoImplicit false

/-! # The places of the final props

A final prop comes from the place of one raw prop. Which places stay can be said from the raw
props and their names alone: one stays exactly if its raw prop gives way to none at an earlier
place that stays. No two lists of places fit this (`KeptPlaces.unique`), and the survivors of a
draft stand at such places, so these fix the final props (`Draft.map_some_finalProps`). -/

namespace ComponentSpec

namespace MethodGroups

variable {g : MethodGroups} {cache : NameCache}

/-- The name that the raw prop at a place takes: the cached one, or else the declared one. -/
def nameAt (g : MethodGroups) (cache : NameCache) (i : Nat) : Option String :=
  (cache.get? i).or (g.rawProps[i]?.map (·.name))

/-- The raw prop at `i` gives way to the one at `k`: they have the same type, and the one at `k`
takes the name that the one at `i` takes or, where a diff wraps that one, declares. -/
def GivesWay (g : MethodGroups) (cache : NameCache) (i k : Nat) : Prop :=
  g.rawProps[k]?.map (·.typeName) = g.rawProps[i]?.map (·.typeName)
    ∧ (g.nameAt cache k = g.nameAt cache i
      ∨ g.scannedProps.length ≤ i ∧ g.nameAt cache k = g.rawProps[i]?.map (·.name))

/-- The places that stay, rising: those whose raw prop gives way to none at one of them before. -/
structure KeptPlaces (g : MethodGroups) (cache : NameCache) (places : List Nat) : Prop where
  rising : places.Pairwise (· < ·)
  mem_iff : ∀ i, i ∈ places ↔
    i < g.rawProps.length ∧ ∀ k ∈ places, k < i → ¬ g.GivesWay cache i k

/-- **The places that stay are fixed by what they have to be.** -/
theorem KeptPlaces.unique {places places' : List Nat} (h : g.KeptPlaces cache places)
    (h' : g.KeptPlaces cache places') : places = places' := by
  refine eq_of_decided_before h.rising h'.rising fun i hbefore => ?_
  rw [h.mem_iff, h'.mem_iff, forall_mem_before_congr hbefore]

end MethodGroups

/-! ## The places of a draft -/

namespace Draft

variable {d : Draft}

/-- The places of the raw props that become final props. -/
def places (d : Draft) : List Nat :=
  d.survivors.map (·.position)

theorem mem_candidates_of_mem_survivors {c : Candidate} (hc : c ∈ d.survivors) :
    c ∈ d.candidates :=
  (survivors_sublist d.candidates).mem hc

theorem typeName_of_mem_candidates {c : Candidate} (hc : c ∈ d.candidates) :
    d.groups.rawProps[c.position]?.map (·.typeName) = some c.prop.typeName := by
  obtain ⟨p, hp, hprop, -⟩ := exists_rawProp hc
  rw [hp, hprop, NameCache.typeName_rename, Option.map_some]

theorem nameAt_of_mem_candidates {c : Candidate} (hc : c ∈ d.candidates) :
    d.groups.nameAt d.cache c.position = some c.prop.name := by
  obtain ⟨p, hp, hprop, -⟩ := exists_rawProp hc
  rw [MethodGroups.nameAt, hp, hprop, NameCache.some_name_rename, Option.map_some]

/-- One candidate gives way to another exactly if its place does. -/
theorem mergesInto_iff_givesWay {c k : Candidate} (hc : c ∈ d.candidates)
    (hk : k ∈ d.candidates) :
    c.mergesInto k.prop = true ↔ d.groups.GivesWay d.cache c.position k.position := by
  obtain ⟨p, hp, -, hother⟩ := exists_rawProp hc
  rw [Candidate.mergesInto_iff, MethodGroups.GivesWay, typeName_of_mem_candidates hc,
    typeName_of_mem_candidates hk, nameAt_of_mem_candidates hc, nameAt_of_mem_candidates hk, hp,
    hother, and_comm]
  -- Only what a diff wraps has another name to be matched by.
  by_cases hdeclared : c.position < d.groups.scannedProps.length
  · simp [hdeclared, Nat.not_le_of_lt hdeclared]
  · simp [hdeclared, Nat.le_of_not_lt hdeclared, eq_comm]

theorem exists_candidate {i : Nat} (hi : i < d.groups.rawProps.length) :
    ∃ c ∈ d.candidates, c.position = i := by
  have hmem : i ∈ d.candidates.map (·.position) := by
    rw [map_position_candidates]
    exact List.mem_range.2 hi
  exact List.mem_map.1 hmem

theorem position_lt {c : Candidate} (hc : c ∈ d.candidates) :
    c.position < d.groups.rawProps.length := by
  rw [← List.mem_range, ← map_position_candidates]
  exact List.mem_map_of_mem hc

/-- **The survivors stand at the places that stay.** -/
theorem keptPlaces_places (d : Draft) : d.groups.KeptPlaces d.cache d.places where
  rising := pairwise_position_survivors d.pairwise_position_candidates
  mem_iff i := by
    by_cases hi : i < d.groups.rawProps.length
    · obtain ⟨c, hc, rfl⟩ := exists_candidate hi
      rw [and_iff_right hi, places, List.forall_mem_map]
      refine (position_mem_survivors_iff d.pairwise_position_candidates hc).trans ?_
      refine forall₂_congr fun k hk => imp_congr_right fun _ => ?_
      rw [Bool.eq_false_iff, Ne, mergesInto_iff_givesWay hc (mem_candidates_of_mem_survivors hk)]
    · refine iff_of_false (fun hmem => ?_) fun h => hi h.1
      obtain ⟨c, hc, rfl⟩ := List.mem_map.1 hmem
      exact hi (position_lt (mem_candidates_of_mem_survivors hc))

/-- **The places that stay fix the final props**: each is the raw prop at its place, under the name
cached for the place. -/
theorem map_some_finalProps (hgiven : d.props.getD [] = []) :
    d.finalProps.map some
      = d.places.map fun i => d.groups.rawProps[i]?.map (d.cache.rename i) := by
  rw [finalProps_eq_map_survivors hgiven, places, List.map_map, List.map_map]
  refine List.map_congr_left fun c hc => ?_
  obtain ⟨p, hp, hprop, -⟩ := exists_rawProp (mem_candidates_of_mem_survivors hc)
  change some c.prop = d.groups.rawProps[c.position]?.map (d.cache.rename c.position)
  rw [hp, hprop, Option.map_some]

theorem map_name_finalProps (hgiven : d.props.getD [] = []) :
    (d.finalProps.map (·.name)).map some = d.places.map (d.groups.nameAt d.cache) := by
  rw [finalProps_eq_map_survivors hgiven, places, List.map_map, List.map_map, List.map_map]
  refine List.map_congr_left fun c hc => ?_
  exact (nameAt_of_mem_candidates (mem_candidates_of_mem_survivors hc)).symm

end Draft
end ComponentSpec
