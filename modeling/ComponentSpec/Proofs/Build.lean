import ComponentSpec.Draft
import ComponentSpec.Proofs.FinalProps
import Mathlib.Logic.Basic

set_option autoImplicit false

/-! # What a build gives

A draft builds exactly if its checks pass, and then its model is the one for the name and anchor
that they found (`Draft.build_eq_ok_iff`). A list that was given with entries is taken as it is;
without one the derived list stands, and derived props are the survivors of the draft's candidates
(`Draft.finalProps_eq_map_survivors`). `nodup_key_finalProps`: derived props have distinct keys. -/

namespace ComponentSpec

namespace Draft

theorem build_eq_ok_iff {d : Draft} {m : Model} :
    d.build = .ok m ↔ ∃ qualified anchor,
      d.checked = .ok (qualified, anchor) ∧ m = d.modelOf qualified anchor := by
  rw [build]
  cases hc : d.checked with
  | error f =>
      refine ⟨fun h => ?_, ?_⟩
      · exact absurd h (by rintro ⟨⟩)
      · rintro ⟨_, _, h, -⟩
        exact absurd h (by rintro ⟨⟩)
  | ok found =>
      obtain ⟨qualified, anchor⟩ := found
      refine ⟨fun h => ⟨qualified, anchor, rfl, (Except.ok.inj h).symm⟩, ?_⟩
      rintro ⟨_, _, h, rfl⟩
      cases h
      rfl

theorem build_eq_error_iff {d : Draft} {f : Flaw} : d.build = .error f ↔ d.checked = .error f := by
  rw [build]
  cases d.checked with
  | error g => exact ⟨fun h => by cases h; rfl, fun h => by cases h; rfl⟩
  | ok found => exact ⟨by rintro ⟨⟩, by rintro ⟨⟩⟩

theorem filter_qualifiedName_eq_some_iff {d : Draft} {name : String} :
    d.qualifiedName.filter (fun name => !Text.isBlank name) = some name ↔
      d.qualifiedName = some name ∧ Text.isBlank name = false := by
  simp [Option.filter_eq_some_iff]

/-- The checks find nothing wrong with a name that is not blank, one source of props and an
anchor. -/
theorem checked_eq_ok_iff {d : Draft} {qualified : String} {anchor : SourceAnchor} :
    d.checked = .ok (qualified, anchor) ↔
      (d.qualifiedName = some qualified ∧ Text.isBlank qualified = false)
        ∧ Xor (d.delegateMethods.isSome = true) (d.props.isSome = true)
        ∧ d.anchor = some anchor := by
  rw [checked, ← filter_qualifiedName_eq_some_iff]
  cases d.qualifiedName.filter fun name => !Text.isBlank name with
  | none => simp
  | some name =>
      cases d.delegateMethods <;> cases d.props <;> cases d.anchor <;> simp [Xor]

theorem props_eq_of_build {d : Draft} {m : Model} (h : d.build = .ok m) :
    m.props = d.finalProps := by
  obtain ⟨_, _, -, rfl⟩ := build_eq_ok_iff.1 h
  rfl

theorem injectProps_eq_of_build {d : Draft} {m : Model} (h : d.build = .ok m) :
    m.injectProps = d.finalInjectProps := by
  obtain ⟨_, _, -, rfl⟩ := build_eq_ok_iff.1 h
  rfl

theorem groups_eq_of_build {d : Draft} {m : Model} (h : d.build = .ok m) :
    m.groups = d.groups := by
  obtain ⟨_, _, -, rfl⟩ := build_eq_ok_iff.1 h
  rfl

theorem rawProps_eq_of_build {d : Draft} {m : Model} (h : d.build = .ok m) :
    m.rawProps = d.groups.rawProps := by
  obtain ⟨_, _, -, rfl⟩ := build_eq_ok_iff.1 h
  rfl

theorem rawInjectProps_eq_of_build {d : Draft} {m : Model} (h : d.build = .ok m) :
    m.rawInjectProps = d.rawInjectProps := by
  obtain ⟨_, _, -, rfl⟩ := build_eq_ok_iff.1 h
  rfl

/-! ## Given and derived lists -/

section OrDerived

variable {α : Type} {given : Option (List α)}

theorem orDerived_of_none_given (h : given.getD [] = []) (derived : List α) :
    orDerived given derived = derived := by
  match given, h with
  | none, _ => rfl
  | some [], _ => rfl

theorem orDerived_of_some_given (h : given.getD [] ≠ []) (derived : List α) :
    orDerived given derived = given.getD [] := by
  match given, h with
  | none, h => exact absurd rfl h
  | some [], h => exact absurd rfl h
  | some (a :: as), _ => rfl

end OrDerived

/-- Derived inject props are the raw ones under their cached names. -/
theorem injectProps_eq_renameFrom {d : Draft} {m : Model} (h : d.build = .ok m)
    (hgiven : d.injectProps.getD [] = []) :
    m.injectProps = d.cache.renameFrom m.props.length m.rawInjectProps := by
  rw [injectProps_eq_of_build h, props_eq_of_build h, rawInjectProps_eq_of_build h]
  exact orDerived_of_none_given hgiven _

/-! ## Derived props -/

/-- The candidates for the final props of a draft. -/
def candidates (d : Draft) : List Candidate :=
  ComponentSpec.candidates d.groups.scannedProps d.groups.propDiffs d.cache

/-- The candidates that become final props. -/
def survivors (d : Draft) : List Candidate :=
  ComponentSpec.survivors d.candidates

theorem finalProps_eq_map_survivors {d : Draft} (h : d.props.getD [] = []) :
    d.finalProps = d.survivors.map (·.prop) := by
  rw [finalProps, orDerived_of_none_given h]
  exact finalProps_append_underlying ..

theorem map_position_candidates (d : Draft) :
    d.candidates.map (·.position) = List.range d.groups.rawProps.length :=
  ComponentSpec.map_position_candidates ..

theorem length_candidates (d : Draft) : d.candidates.length = d.groups.rawProps.length := by
  rw [← List.length_map (f := Candidate.position), map_position_candidates, List.length_range]

theorem pairwise_position_candidates (d : Draft) :
    d.candidates.Pairwise (·.position < ·.position) :=
  ComponentSpec.pairwise_position_candidates ..

/-- A candidate is the raw prop at its position, under the name cached for it. -/
theorem exists_rawProp {d : Draft} {c : Candidate} (hc : c ∈ d.candidates) :
    ∃ p, d.groups.rawProps[c.position]? = some p ∧ c.prop = d.cache.rename c.position p
      ∧ c.otherName = if c.position < d.groups.scannedProps.length then none else some p.name := by
  obtain ⟨p, hp, heq⟩ := exists_of_mem_candidates hc
  exact ⟨p, hp, congrArg Candidate.prop heq, congrArg Candidate.otherName heq⟩

end Draft

/-- **Derived props have distinct keys**, for any raw props, diffs and cache, and so have the
props of every model whose draft gave none. -/
theorem nodup_key_finalProps :
    (∀ (raw : List PropParam) (diffs : List PropDiff) (cache : NameCache),
      ((finalProps raw diffs cache).map Key.of).Nodup) ∧
    ∀ (d : Draft) (m : Model), d.build = .ok m → d.props.getD [] = [] →
      (m.props.map Key.of).Nodup := by
  refine ⟨fun raw diffs cache => ?_, fun d m hbuild hgiven => ?_⟩
  · rw [finalProps_eq_survivors, List.map_map]
    exact nodup_key_survivors _
  · rw [Draft.props_eq_of_build hbuild, Draft.finalProps_eq_map_survivors hgiven, List.map_map]
    exact nodup_key_survivors _

/-- A spec that names one of its props twice. -/
def repeatedTitle (cache : NameCache) : Draft :=
  { qualifiedName := some "com.example.CardSpec"
    delegateMethods := some [
      { hook := .onCreateLayout
        name := "render"
        params := [.prop { name := "title", typeName := ⟨"String"⟩ },
          .prop { name := "title", typeName := ⟨"String"⟩ },
          .prop { name := "count", typeName := ⟨"int"⟩ },
          .injectProp { name := "api", typeName := ⟨"Api"⟩ }] }]
    cache := cache
    anchor := some { origin := "CardSpec.java" } }

/-- Names that tell all its props apart. -/
def distinctNames : NameCache :=
  ⟨["heading", "title", "total", "client"]⟩

/-- The model of `repeatedTitle`. -/
def repeatedTitleModel (cache : NameCache) : Model :=
  (repeatedTitle cache).modelOf "com.example.CardSpec" { origin := "CardSpec.java" }

theorem build_repeatedTitle (cache : NameCache) :
    (repeatedTitle cache).build = .ok (repeatedTitleModel cache) :=
  rfl

/-- A shifted cache moves one name onto another. -/
theorem nodup_key_finalProps_shifted :
    ((repeatedTitleModel ⟨["count", "title", "title"]⟩).props.map Key.of).Nodup :=
  nodup_key_finalProps.2 (repeatedTitle ⟨["count", "title", "title"]⟩) _
    (build_repeatedTitle _) rfl

end ComponentSpec
