import ComponentSpec.Proofs.Build

set_option autoImplicit false

/-! # Two builds side by side

Two builds are compared by what comes out of them: the same flaw from both, or two models that are
related (`Draft.Outcomes`). Only the checks find flaws, so drafts on which the checks agree have
related outcomes as soon as their models are related (`Draft.Outcomes.of_checked_eq`).

The first use is for cached names, which the checks do not look at. `Draft.outcomes_recached`:
other cached names give a prop or an inject prop another name, and touch nothing else. -/

namespace ComponentSpec

namespace Draft

/-- The same flaw from both builds, or two models in the relation. -/
inductive Outcomes (R : Model → Model → Prop) : Except Flaw Model → Except Flaw Model → Prop where
  | failed (f : Flaw) : Outcomes R (.error f) (.error f)
  | built {m m' : Model} (h : R m m') : Outcomes R (.ok m) (.ok m')

theorem Outcomes.of_checked_eq {R : Model → Model → Prop} {d d' : Draft}
    (hchecked : d.checked = d'.checked)
    (hmodels : ∀ qualified anchor, R (d.modelOf qualified anchor) (d'.modelOf qualified anchor)) :
    Outcomes R d.build d'.build := by
  rw [build, build, hchecked]
  cases d'.checked with
  | error f => exact .failed f
  | ok found =>
      obtain ⟨qualified, anchor⟩ := found
      exact .built (hmodels qualified anchor)

end Draft

/-! ## What renaming leaves alone -/

namespace NameCache

/-- What does not depend on names is the same before and after renaming. -/
theorem map_renameFrom {α β : Type} [Renamable α] {f : α → β}
    (hf : ∀ a n, f (Renamable.withName a n) = f a) (cache : NameCache) (start : Nat)
    (as : List α) : (cache.renameFrom start as).map f = as.map f := by
  refine List.ext_getElem? fun i => ?_
  rw [List.getElem?_map, getElem?_renameFrom, Option.map_map, List.getElem?_map]
  refine congrArg (as[i]?.map ·) (funext fun a => ?_)
  rw [Function.comp_apply, rename]
  cases cache.get? (start + i) with
  | none => rfl
  | some n => exact hf a n

theorem rename_eq_but_name (cache : NameCache) (i : Nat) (p : PropParam) :
    cache.rename i p = { p with name := (cache.rename i p).name } := by
  rw [rename_eq_withName]
  rfl

end NameCache

namespace Draft

/-- A derived prop is a raw prop, perhaps under another name. -/
theorem exists_rawProp_eq_but_name {d : Draft} (hgiven : d.props.getD [] = []) {p : PropParam}
    (hp : p ∈ d.finalProps) : ∃ r ∈ d.groups.rawProps, p = { r with name := p.name } := by
  rw [finalProps_eq_map_survivors hgiven] at hp
  obtain ⟨c, hc, rfl⟩ := List.mem_map.1 hp
  obtain ⟨r, hr, hprop, -⟩ := exists_rawProp ((survivors_sublist d.candidates).mem hc)
  refine ⟨r, List.mem_of_getElem? hr, ?_⟩
  rw [hprop]
  exact NameCache.rename_eq_but_name ..

theorem map_finalInjectProps {d : Draft} {β : Type} {f : InjectParam → β}
    (hf : ∀ (p : InjectParam) n, f { p with name := n } = f p)
    (hgiven : d.injectProps.getD [] = []) :
    d.finalInjectProps.map f = d.rawInjectProps.map f := by
  rw [finalInjectProps, orDerived_of_none_given hgiven]
  exact NameCache.map_renameFrom hf ..

/-! ## Other cached names -/

/-- How two models of one draft may differ that is built under different cached names. -/
structure DifferInNames (d : Draft) (m m' : Model) : Prop where
  others : m' = { m with props := m'.props, injectProps := m'.injectProps }
  /-- Derived props come from the same raw props, and only their names are new. -/
  derivedProps : d.props.getD [] = [] →
    ∀ p ∈ m.props ++ m'.props, ∃ r ∈ m.rawProps, p = { r with name := p.name }
  /-- Derived inject props agree one by one in all but their names. -/
  derivedInjectProps : d.injectProps.getD [] = [] →
    m.injectProps.map (fun p => (p.typeName, p.annotations))
      = m'.injectProps.map fun p => (p.typeName, p.annotations)
  givenProps : d.props.getD [] ≠ [] → m.props = d.props.getD [] ∧ m'.props = d.props.getD []
  givenInjectProps : d.injectProps.getD [] ≠ [] →
    m.injectProps = d.injectProps.getD [] ∧ m'.injectProps = d.injectProps.getD []

/-- **Cached names touch names alone.** Whatever names are cached, a draft has the same flaw, or
models that differ in nothing but the names of derived props and inject props and in which of the
props are merged under them. -/
theorem outcomes_recached (d : Draft) (cache cache' : NameCache) :
    Outcomes (DifferInNames d) { d with cache := cache }.build
      { d with cache := cache' }.build := by
  refine .of_checked_eq rfl fun qualified anchor => ?_
  constructor
  case others => rfl
  case derivedProps =>
    intro hgiven p hp
    rcases List.mem_append.1 hp with h | h
    · exact exists_rawProp_eq_but_name (d := { d with cache := cache }) hgiven h
    · exact exists_rawProp_eq_but_name (d := { d with cache := cache' }) hgiven h
  case derivedInjectProps =>
    intro hgiven
    have hfirst := map_finalInjectProps (d := { d with cache := cache })
      (f := fun p => (p.typeName, p.annotations)) (fun _ _ => rfl) hgiven
    have hsecond := map_finalInjectProps (d := { d with cache := cache' })
      (f := fun p => (p.typeName, p.annotations)) (fun _ _ => rfl) hgiven
    -- The raw inject props are scanned and merged before any name is looked up.
    exact hfirst.trans hsecond.symm
  case givenProps =>
    intro hgiven
    exact ⟨orDerived_of_some_given hgiven _, orDerived_of_some_given hgiven _⟩
  case givenInjectProps =>
    intro hgiven
    exact ⟨orDerived_of_some_given hgiven _, orDerived_of_some_given hgiven _⟩

/-- Even the number of props may differ. -/
theorem outcomes_recached_repeatedTitle :
    (repeatedTitleModel {}).props.length = 2
      ∧ (repeatedTitleModel distinctNames).props.length = 3
      ∧ DifferInNames (repeatedTitle {}) (repeatedTitleModel {})
        (repeatedTitleModel distinctNames) := by
  have h : Outcomes _ (.ok (repeatedTitleModel {})) (.ok (repeatedTitleModel distinctNames)) :=
    outcomes_recached (repeatedTitle {}) {} distinctNames
  cases h with
  | built h => exact ⟨by decide +kernel, by decide +kernel, h⟩

end Draft
end ComponentSpec
