import ComponentSpec.Proofs.Places

set_option autoImplicit false

/-! # Building again under the kept names

A model's names are kept by final position, props first, and the next build looks them up by raw
position. As long as no raw prop was merged away the two positions agree, and building again gives
the same model any number of times (`Draft.rebuild_eq_of_unmerged`). After a merge they part:
`Draft.replay_keeps_names_iff` says exactly when the names stay, and `replay_moves_names` shows a
spec whose names do not. -/

namespace ComponentSpec

/-! ## Renaming to a name that is there already -/

namespace NameCache

variable {α : Type} [Declared α] [Renamable α] [LawfulRenamable α]

/-- A cache that has the name another cache gives renames in the same way. -/
theorem rename_eq_of_get? {c c' : NameCache} {i : Nat} {a : α}
    (h : c'.get? i = some (Declared.name (c.rename i a))) : c'.rename i a = c.rename i a := by
  rw [c'.rename_eq_withName, h, Option.getD_some, c.rename_eq_withName,
    LawfulRenamable.name_withName]

theorem renameFrom_eq_of_get? {c c' : NameCache} {start : Nat} {as : List α}
    (h : ∀ i a, as[i]? = some a →
      c'.get? (start + i) = some (Declared.name (c.rename (start + i) a))) :
    c'.renameFrom start as = c.renameFrom start as := by
  refine List.ext_getElem? fun i => ?_
  rw [getElem?_renameFrom, getElem?_renameFrom]
  cases ha : as[i]? with
  | none => rfl
  | some a => rw [Option.map_some, Option.map_some, rename_eq_of_get? (h i a ha)]

end NameCache

/-! ## The kept names -/

namespace Model

theorem get?_nameCache_of_lt {m : Model} {i : Nat} (h : i < m.props.length) :
    m.nameCache.get? i = m.props[i]?.map (·.name) := by
  rw [NameCache.get?, nameCache, List.getElem?_append_left (by rwa [List.length_map]),
    List.getElem?_map]

theorem get?_nameCache_length_add (m : Model) (i : Nat) :
    m.nameCache.get? (m.props.length + i) = m.injectProps[i]?.map (·.name) := by
  rw [NameCache.get?, nameCache, List.getElem?_append_right (by simp), List.length_map,
    Nat.add_sub_cancel_left, List.getElem?_map]

/-- The kept names read back: the places that stay under the names kept of `m` take, one after the
other, the names of its props. -/
def ReadsBack (m : Model) : Prop :=
  ∃ places, m.groups.KeptPlaces m.nameCache places
    ∧ places.map (m.groups.nameAt m.nameCache) = (m.props.map (·.name)).map some

end Model

namespace Draft

/-- The draft with the names of an earlier model to be kept. -/
def replay (d : Draft) (m : Model) : Draft :=
  { d with cache := m.nameCache }

/-- The model after `n` builds more, each under the names of the model before. -/
def rebuild (d : Draft) : Nat → Except Flaw Model
  | 0 => d.build
  | n + 1 => do
    let m ← d.rebuild n
    (d.replay m).build

variable {d : Draft} {m : Model}

/-- The cache plays no part in the checks, so a draft that builds builds again. -/
theorem build_replay (h : d.build = .ok m) : ∃ m', (d.replay m).build = .ok m' := by
  obtain ⟨qualified, anchor, hchecked, -⟩ := build_eq_ok_iff.1 h
  exact ⟨_, build_eq_ok_iff.2 ⟨qualified, anchor, hchecked, rfl⟩⟩

/-- Inject props keep their names as soon as the number of props stays. -/
theorem finalInjectProps_replay (h : d.build = .ok m)
    (hcount : (d.replay m).finalProps.length = m.props.length) :
    (d.replay m).finalInjectProps = m.injectProps := by
  by_cases hgiven : d.injectProps.getD [] = []
  · have hinject : m.injectProps = d.cache.renameFrom m.props.length d.rawInjectProps := by
      rw [injectProps_eq_of_build h, props_eq_of_build h, finalInjectProps,
        orDerived_of_none_given hgiven, ComponentSpec.finalInjectProps]
    have hagain : (d.replay m).finalInjectProps
        = m.nameCache.renameFrom m.props.length d.rawInjectProps := by
      rw [finalInjectProps, hcount]
      exact orDerived_of_none_given hgiven _
    rw [hagain, hinject]
    refine NameCache.renameFrom_eq_of_get? fun i a ha => ?_
    rw [Model.get?_nameCache_length_add, hinject, NameCache.getElem?_renameFrom, ha]
    rfl
  · rw [injectProps_eq_of_build h]
    exact (orDerived_of_some_given hgiven _).trans (orDerived_of_some_given hgiven _).symm

/-- A build whose props come out the same gives the same model. -/
theorem build_replay_of_finalProps_eq (h : d.build = .ok m)
    (hprops : (d.replay m).finalProps = m.props) : (d.replay m).build = .ok m := by
  have hinject := finalInjectProps_replay h (congrArg List.length hprops)
  obtain ⟨qualified, anchor, hchecked, hm⟩ := build_eq_ok_iff.1 h
  refine build_eq_ok_iff.2 ⟨qualified, anchor, hchecked, ?_⟩
  rw [modelOf, hprops, hinject, hm]
  rfl

/-! ## Builds that merge nothing -/

/-- Where nothing was merged away, the name of a raw prop's position is its own. -/
theorem finalProps_replay_of_length_eq (h : d.build = .ok m) (hgiven : d.props.getD [] = [])
    (hlength : m.props.length = m.rawProps.length) : (d.replay m).finalProps = m.props := by
  have hprops : m.props = d.survivors.map (·.prop) := by
    rw [props_eq_of_build h, finalProps_eq_map_survivors hgiven]
  have hall : d.survivors = d.candidates := by
    refine (survivors_sublist d.candidates).eq_of_length ?_
    rw [length_candidates, ← rawProps_eq_of_build h, ← hlength, hprops, List.length_map]
    rfl
  have hnames : m.props = d.cache.renameFrom 0 d.groups.rawProps := by
    rw [hprops, hall, candidates, map_prop_candidates]
    rfl
  -- Position by position, the kept name is the name that the candidate had already.
  have hsame : (d.replay m).candidates = d.candidates := by
    refine candidates_congr fun i p hp => NameCache.rename_eq_of_get? ?_
    have hp' : d.groups.rawProps[i]? = some p := hp
    have hlt : i < m.props.length := by
      rw [hlength, rawProps_eq_of_build h]
      exact (List.getElem?_eq_some_iff.1 hp').1
    show m.nameCache.get? i = _
    rw [Model.get?_nameCache_of_lt hlt, hnames, NameCache.getElem?_renameFrom, hp', Nat.zero_add]
    rfl
  rw [finalProps_eq_map_survivors (d := d.replay m) hgiven, survivors, hsame, hprops]
  rfl

/-- Given props stay as they are. -/
theorem finalProps_replay_of_given (h : d.build = .ok m) (hgiven : d.props.getD [] ≠ []) :
    (d.replay m).finalProps = m.props := by
  rw [props_eq_of_build h]
  exact (orDerived_of_some_given hgiven _).trans (orDerived_of_some_given hgiven _).symm

/-- **A build that merges nothing is a fixed point**: with props that were given, or with as many
final props as raw ones, every further build gives the very same model. -/
theorem rebuild_eq_of_unmerged (h : d.build = .ok m)
    (hunmerged : d.props.getD [] ≠ [] ∨ m.props.length = m.rawProps.length) (n : Nat) :
    d.rebuild n = .ok m := by
  have hprops : (d.replay m).finalProps = m.props := by
    by_cases hgiven : d.props.getD [] = []
    · exact finalProps_replay_of_length_eq h hgiven (hunmerged.resolve_left (not_not_intro hgiven))
    · exact finalProps_replay_of_given h hgiven
  induction n with
  | zero => exact h
  | succ n ih =>
      rw [rebuild, ih]
      exact build_replay_of_finalProps_eq h hprops

/-- Under distinct names nothing is merged. -/
theorem rebuild_repeatedTitle :
    (repeatedTitle distinctNames).rebuild 3 = .ok (repeatedTitleModel distinctNames) :=
  rebuild_eq_of_unmerged (build_repeatedTitle _) (Or.inr (by decide +kernel)) 3

/-! ## Builds that merge -/

theorem map_name_finalProps_replay_iff (h : d.build = .ok m) :
    (d.replay m).finalProps.map (·.name) = m.props.map (·.name) ↔
      d.props.getD [] ≠ [] ∨ m.ReadsBack := by
  by_cases hgiven : d.props.getD [] = []
  · -- The next build has the same methods, and its cache is the kept names.
    have hkept : d.groups.KeptPlaces m.nameCache (d.replay m).places :=
      keptPlaces_places (d.replay m)
    have hnames : ((d.replay m).finalProps.map (·.name)).map some
        = (d.replay m).places.map (d.groups.nameAt m.nameCache) := map_name_finalProps hgiven
    rw [← groups_eq_of_build h] at hnames hkept
    constructor
    · intro heq
      refine Or.inr ⟨(d.replay m).places, hkept, ?_⟩
      rw [← hnames, heq]
    · intro hor
      obtain ⟨places, hplaces, hread⟩ := hor.resolve_left (not_not_intro hgiven)
      rw [hplaces.unique hkept, ← hnames] at hread
      exact (List.map_inj_right fun _ _ => Option.some.inj).1 hread
  · exact ⟨fun _ => Or.inl hgiven, fun _ => by rw [finalProps_replay_of_given h hgiven]⟩

/-- **When the names stay.** A draft that builds also builds under the names of its model, and all
names stay in their order exactly if the props were given or the kept names are found in their
places. -/
theorem replay_keeps_names_iff (h : d.build = .ok m) :
    ∃ m', (d.replay m).build = .ok m' ∧
      ((m'.props.map (·.name) = m.props.map (·.name)
          ∧ m'.injectProps.map (·.name) = m.injectProps.map (·.name))
        ↔ d.props.getD [] ≠ [] ∨ m.ReadsBack) := by
  obtain ⟨m', h'⟩ := build_replay h
  have hprops := props_eq_of_build h'
  refine ⟨m', h', Iff.trans (and_iff_left_of_imp fun hnames => ?_) ?_⟩
  · -- The inject props are counted from the props, whose number the names fix.
    have hcount : (d.replay m).finalProps.length = m.props.length := by
      rw [← hprops, ← List.length_map (f := PropParam.name), hnames, List.length_map]
    rw [injectProps_eq_of_build h', finalInjectProps_replay h hcount]
  · rw [hprops]
    exact map_name_finalProps_replay_iff h

/-- Where all kept names are equal, a merge does no harm. -/
theorem readsBack_repeatedTitle :
    (repeatedTitleModel ⟨["api", "api", "api"]⟩).ReadsBack := by
  obtain ⟨m', h', hiff⟩ := replay_keeps_names_iff (build_repeatedTitle ⟨["api", "api", "api"]⟩)
  have hm' : repeatedTitleModel (repeatedTitleModel ⟨["api", "api", "api"]⟩).nameCache = m' :=
    Except.ok.inj ((build_repeatedTitle _).symm.trans h')
  subst hm'
  exact (hiff.1 (by decide +kernel)).resolve_left (not_not_intro rfl)

/-- After a merge the name of an inject prop is read as the name of a prop. -/
theorem replay_moves_names :
    (repeatedTitle {}).build = .ok (repeatedTitleModel {})
      ∧ ((repeatedTitle {}).replay (repeatedTitleModel {})).build
        = .ok (repeatedTitleModel (repeatedTitleModel {}).nameCache)
      ∧ (repeatedTitleModel {}).props.map (·.name) = ["title", "count"]
      ∧ (repeatedTitleModel (repeatedTitleModel {}).nameCache).props.map (·.name)
        = ["title", "count", "api"] :=
  ⟨build_repeatedTitle _, build_repeatedTitle _, by decide +kernel, by decide +kernel⟩

end Draft
end ComponentSpec
