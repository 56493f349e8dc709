import ComponentSpec.Proofs.Places

set_option autoImplicit false

/-! # Which cached names are read

A final prop reads the cache at the place of its raw prop, an inject prop reads it past the number
of final props. A raw prop merged away before one that stays leaves that one at a place past the
number of final props, where an inject prop reads too. `Draft.slots_apart_iff` says exactly when
this does not happen: where every raw prop at such a place was merged away. -/

namespace ComponentSpec.Draft

variable {d : Draft} {m : Model}

/-- The positions in the cache whose names final props have. -/
def propSlots (d : Draft) : List Nat :=
  d.places.filter (· < d.cache.size)

/-- The positions in the cache whose names final inject props have. -/
def injectSlots (d : Draft) : List Nat :=
  ((List.range d.rawInjectProps.length).map (d.finalProps.length + ·)).filter (· < d.cache.size)

/-- The raw prop at `i` gives way to one that stays. -/
def MergedAway (d : Draft) (i : Nat) : Prop :=
  ∃ k ∈ d.places, k < i ∧ d.groups.GivesWay d.cache i k

theorem mem_propSlots {i : Nat} : i ∈ d.propSlots ↔ i ∈ d.places ∧ i < d.cache.size := by
  simp [propSlots]

theorem lt_size_of_mem_injectSlots {i : Nat} (hi : i ∈ d.injectSlots) : i < d.cache.size := by
  unfold injectSlots at hi
  simpa using (List.mem_filter.1 hi).2

/-- A raw prop either stays or is merged away. -/
theorem not_mem_places_iff {i : Nat} (hi : i < d.groups.rawProps.length) :
    i ∉ d.places ↔ d.MergedAway i := by
  unfold MergedAway
  rw [d.keptPlaces_places.mem_iff]
  simp [hi]

/-- The slots of the props avoid some slots exactly if the raw props there are merged away. -/
theorem propSlots_avoid_iff (avoided : Nat → Prop) :
    (∀ i ∈ d.propSlots, ¬ avoided i) ↔
      ∀ i, avoided i → i < d.groups.rawProps.length → i < d.cache.size → d.MergedAway i := by
  constructor
  · intro hnone i havoided hraw hsize
    rw [← not_mem_places_iff hraw]
    intro hplace
    exact hnone i (mem_propSlots.2 ⟨hplace, hsize⟩) havoided
  · intro hmerged i hi havoided
    obtain ⟨hplace, hsize⟩ := mem_propSlots.1 hi
    have hraw := ((d.keptPlaces_places.mem_iff i).1 hplace).1
    exact (not_mem_places_iff hraw).2 (hmerged i havoided hraw hsize) hplace

/-- **When props and inject props read apart.** With derived props and inject props, each prop is
the raw prop at a place that stays, under the name cached there, and the inject props have the
names cached past the number of props. The props read below that number exactly if every raw prop
past it that has a cached name is merged away, and they read no name that an inject prop reads
exactly if every raw prop at such a position is. -/
theorem slots_apart_iff (h : d.build = .ok m) (hprops : d.props.getD [] = [])
    (hinject : d.injectProps.getD [] = []) :
    m.groups.KeptPlaces d.cache d.places
      ∧ m.props.map some = d.places.map (fun i => m.rawProps[i]?.map (d.cache.rename i))
      ∧ m.injectProps = d.cache.renameFrom m.props.length m.rawInjectProps
      ∧ ((∀ slot ∈ d.propSlots, slot < m.props.length) ↔
        ∀ slot, m.props.length ≤ slot → slot < m.rawProps.length → slot < d.cache.size →
          d.MergedAway slot)
      ∧ ((∀ slot ∈ d.propSlots, slot ∉ d.injectSlots) ↔
        ∀ slot ∈ d.injectSlots, slot < m.rawProps.length → d.MergedAway slot) := by
  rw [groups_eq_of_build h, props_eq_of_build h, rawProps_eq_of_build h]
  refine ⟨keptPlaces_places d, map_some_finalProps hprops, ?_, ?_, ?_⟩
  · obtain ⟨_, _, -, rfl⟩ := build_eq_ok_iff.1 h
    exact orDerived_of_none_given hinject _
  · simpa using propSlots_avoid_iff (d := d) (d.finalProps.length ≤ ·)
  · refine (propSlots_avoid_iff (· ∈ d.injectSlots)).trans ?_
    -- An inject prop reads only where the cache has a name.
    refine forall_congr' fun slot => forall_congr' fun hslot => forall_congr' fun _ => ?_
    exact ⟨fun hmerged => hmerged (lt_size_of_mem_injectSlots hslot), fun hmerged _ => hmerged⟩

/-- Under distinct names the inject prop has the fourth for itself. -/
theorem slots_apart_repeatedTitle :
    (repeatedTitle distinctNames).injectSlots = [3]
      ∧ (∀ slot ∈ (repeatedTitle distinctNames).propSlots,
        slot < (repeatedTitleModel distinctNames).props.length)
      ∧ ∀ slot ∈ (repeatedTitle distinctNames).propSlots,
        slot ∉ (repeatedTitle distinctNames).injectSlots := by
  have hprops : (repeatedTitleModel distinctNames).props.length = 3 := by decide +kernel
  have hraw : (repeatedTitleModel distinctNames).rawProps.length = 3 := by decide +kernel
  have hinject : (repeatedTitle distinctNames).injectSlots = [3] := by decide +kernel
  obtain ⟨-, -, -, hbelow, hapart⟩ := slots_apart_iff (build_repeatedTitle distinctNames) rfl rfl
  -- Nothing was merged, so no raw prop stands past the number of props.
  rw [hprops, hraw] at hbelow
  rw [hinject, hraw] at hapart
  rw [hinject, hprops]
  refine ⟨rfl, hbelow.2 ?_, hapart.2 ?_⟩
  · intro slot hle hlt
    exact absurd hlt (Nat.not_lt.2 hle)
  · intro slot hslot hlt
    rw [List.mem_singleton.1 hslot] at hlt
    exact absurd hlt (Nat.lt_irrefl 3)

/-- The third cached name goes to a prop and to an inject prop. -/
theorem slots_shared_repeatedTitle :
    (repeatedTitle ⟨["title", "title", "total"]⟩).build
        = .ok (repeatedTitleModel ⟨["title", "title", "total"]⟩)
      ∧ (repeatedTitleModel ⟨["title", "title", "total"]⟩).props.map (·.name) = ["title", "total"]
      ∧ (repeatedTitleModel ⟨["title", "title", "total"]⟩).injectProps.map (·.name) = ["total"]
      ∧ (repeatedTitle ⟨["title", "title", "total"]⟩).propSlots = [0, 2]
      ∧ (repeatedTitle ⟨["title", "title", "total"]⟩).injectSlots = [2] :=
  ⟨build_repeatedTitle _, by decide +kernel, by decide +kernel, by decide +kernel,
    by decide +kernel⟩

end ComponentSpec.Draft
