import ComponentSpec.Proofs.DiffTypes
import ComponentSpec.Proofs.Values

set_option autoImplicit false

/-! # Markers are a set

What a parameter becomes depends on which markers it has, not on how often or in which order they
stand. `MarkedParam.KeptIn` says what of a marked parameter is found again once it is classified:
its name, its type and each detail that its category has a place for. Nothing else is left to
choose, so the classified parameter is the only one that fits (`MarkedParam.eq_toParam_iff_keptIn`).

Classifying is the first thing that is done to a document, and the markers are not looked at again.
So two documents whose parameters have the same sets of markers make the same draft
(`Document.SameButMarkers.toDraft_eq`), and `Document.built_from_marker_sets` puts both together. -/

namespace ComponentSpec

theorem Category.ofMarkers_congr {ms ms' : List Marker} (h : ∀ x, x ∈ ms ↔ x ∈ ms') :
    ofMarkers ms = ofMarkers ms' := by
  simp only [ofMarkers, h]

/-! ## What a classified parameter keeps -/

namespace Param

/-- The prop that the parameter declares or wraps. -/
def heldProp? : Param → Option PropParam
  | .prop p => some p
  | .diffProp d => some d.underlying
  | _ => none

/-- The state value that the parameter declares or wraps. -/
def heldState? : Param → Option StateParam
  | .stateValue s => some s
  | .diffStateValue d => some d.underlying
  | _ => none

/-- The annotations, for the categories that have a place for them. -/
def annotations? : Param → Option (List String)
  | .prop p => some p.annotations
  | .diffProp d => some d.underlying.annotations
  | .injectProp p => some p.annotations
  | .plain p => some p.annotations
  | _ => none

/-- There is nothing to a parameter but its category, its key and these details. -/
theorem eq_of_details {p q : Param} (hcategory : p.category = q.category) (hkey : p.key = q.key)
    (hprop : p.heldProp? = q.heldProp?) (hstate : p.heldState? = q.heldState?)
    (hannotations : p.annotations? = q.annotations?) : p = q := by
  cases p with
  | prop a =>
      cases q <;> cases hcategory
      exact congrArg prop (Option.some.inj hprop)
  | injectProp a =>
      cases q <;> cases hcategory
      obtain ⟨hname, htype⟩ := Key.mk.inj hkey
      exact congrArg injectProp
        ((InjectParam.mk.injEq ..).mpr ⟨hname, htype, Option.some.inj hannotations⟩)
  | stateValue a =>
      cases q <;> cases hcategory
      exact congrArg stateValue (Option.some.inj hstate)
  | diffStateValue a =>
      cases q <;> cases hcategory
      exact congrArg diffStateValue
        ((StateDiff.mk.injEq ..).mpr ⟨Option.some.inj hstate, (Key.mk.inj hkey).2⟩)
  | diffProp a =>
      cases q <;> cases hcategory
      exact congrArg diffProp
        ((PropDiff.mk.injEq ..).mpr ⟨Option.some.inj hprop, (Key.mk.inj hkey).2⟩)
  | interStageInput a =>
      cases q <;> cases hcategory
      exact congrArg interStageInput (StageInput.key_injective hkey)
  | treeValue a =>
      cases q <;> cases hcategory
      exact congrArg treeValue (TreeValue.key_injective hkey)
  | renderDataDiff a =>
      cases q <;> cases hcategory
      exact congrArg renderDataDiff (RenderDiff.key_injective hkey)
  | plain a =>
      cases q <;> cases hcategory
      obtain ⟨hname, htype⟩ := Key.mk.inj hkey
      exact congrArg plain
        ((PlainParam.mk.injEq ..).mpr ⟨hname, htype, Option.some.inj hannotations⟩)

end Param

namespace MarkedParam

/-- The parameter has the category that the markers stand for, and all that it has a place for is as
it is marked. -/
structure KeptIn (m : MarkedParam) (p : Param) : Prop where
  category : p.category = .ofMarkers m.markers
  name : p.key.name = m.name
  /-- A diff of a prop or a state has a type of its own, made of the marked one. -/
  typeName : p.key.typeName
    = if p.category ∈ [.diffProp, .diffStateValue] then ⟨"Diff<" ++ m.typeName.text ++ ">"⟩
      else m.typeName
  prop : p.heldProp?
    = if p.category ∈ [.prop, .diffProp] then
        some ⟨m.name, m.typeName, m.optional, m.varArg, m.doc, m.annotations⟩
      else none
  state : p.heldState?
    = if p.category ∈ [.stateValue, .diffStateValue] then
        some ⟨m.name, m.typeName, m.canUpdateLazily⟩
      else none
  annotations : p.annotations?
    = if p.category ∈ [.prop, .diffProp, .injectProp, .plain] then some m.annotations else none

theorem keptIn_toParam (m : MarkedParam) : m.KeptIn m.toParam := by
  have hdiff : m.typeName.wrappedIn diffContainer = ⟨"Diff<" ++ m.typeName.text ++ ">"⟩ :=
    m.typeName.wrappedIn_diffContainer
  refine ⟨m.category_toParam, ?_, ?_, ?_, ?_, ?_⟩
  case refine_2 =>
    unfold toParam
    split
    case h_4 => exact hdiff
    case h_5 => exact hdiff
    all_goals rfl
  all_goals
    unfold toParam
    split <;> rfl

/-- What is kept leaves no choice. -/
theorem KeptIn.unique {m : MarkedParam} {p q : Param} (h : m.KeptIn p) (h' : m.KeptIn q) :
    p = q := by
  have hcategory : p.category = q.category := h.category.trans h'.category.symm
  have hname : p.key.name = q.key.name := h.name.trans h'.name.symm
  have htype : p.key.typeName = q.key.typeName := by
    rw [h.typeName, h'.typeName, hcategory]
  refine Param.eq_of_details hcategory ((Key.mk.injEq ..).mpr ⟨hname, htype⟩) ?_ ?_ ?_
  · rw [h.prop, h'.prop, hcategory]
  · rw [h.state, h'.state, hcategory]
  · rw [h.annotations, h'.annotations, hcategory]

theorem eq_toParam_iff_keptIn {m : MarkedParam} {p : Param} : p = m.toParam ↔ m.KeptIn p := by
  constructor
  · rintro rfl
    exact m.keptIn_toParam
  · intro h
    exact h.unique m.keptIn_toParam

end MarkedParam

/-! ## Documents that differ in markers -/

/-- The parameters agree in all but the order and number of their markers. -/
structure MarkedParam.SameButMarkers (m m' : MarkedParam) : Prop where
  others : m' = { m with markers := m'.markers }
  markers : ∀ x, x ∈ m.markers ↔ x ∈ m'.markers

structure DelegateEntry.SameButMarkers (e e' : DelegateEntry) : Prop where
  others : e' = { e with params := e'.params }
  params : List.Forall₂ MarkedParam.SameButMarkers e.params e'.params

structure EventEntry.SameButMarkers (e e' : EventEntry) : Prop where
  others : e' = { e with params := e'.params }
  params : List.Forall₂ MarkedParam.SameButMarkers e.params e'.params

structure UpdateEntry.SameButMarkers (e e' : UpdateEntry) : Prop where
  others : e' = { e with params := e'.params }
  params : List.Forall₂ MarkedParam.SameButMarkers e.params e'.params

/-- The documents agree in all but the order and number of markers inside their parameters. -/
structure Document.SameButMarkers (d d' : Document) : Prop where
  others : d' = { d with
    delegateMethods := d'.delegateMethods
    eventMethods := d'.eventMethods
    triggerMethods := d'.triggerMethods
    updateMethods := d'.updateMethods }
  delegateMethods : Option.Rel (List.Forall₂ DelegateEntry.SameButMarkers) d.delegateMethods
    d'.delegateMethods
  eventMethods : List.Forall₂ EventEntry.SameButMarkers d.eventMethods d'.eventMethods
  triggerMethods : List.Forall₂ EventEntry.SameButMarkers d.triggerMethods d'.triggerMethods
  updateMethods : List.Forall₂ UpdateEntry.SameButMarkers d.updateMethods d'.updateMethods

/-- What comes out the same item by item comes out the same in a list. -/
theorem map_eq_map_of_forall₂ {α β : Type} {R : α → α → Prop} {f : α → β}
    (hf : ∀ a b, R a b → f a = f b) {as bs : List α} (h : List.Forall₂ R as bs) :
    as.map f = bs.map f := by
  have hmap : List.Forall₂ (· = ·) (as.map f) (bs.map f) := List.rel_map (fun a b => hf a b) h
  rwa [List.forall₂_eq_eq_eq] at hmap

theorem option_map_eq_map_of_rel {α β : Type} {R : α → α → Prop} {f : α → β}
    (hf : ∀ a b, R a b → f a = f b) {a b : Option α} (h : Option.Rel R a b) :
    a.map f = b.map f := by
  cases h with
  | none => rfl
  | some hab => exact congrArg some (hf _ _ hab)

theorem MarkedParam.SameButMarkers.toParam_eq (m m' : MarkedParam) (h : m.SameButMarkers m') :
    m.toParam = m'.toParam := by
  have hcategory : m.category = m'.category := Category.ofMarkers_congr h.markers
  rw [toParam, toParam, hcategory, h.others]
  rfl

theorem DelegateEntry.SameButMarkers.toMethod_eq (e e' : DelegateEntry) (h : e.SameButMarkers e') :
    e.toMethod = e'.toMethod := by
  rw [toMethod, map_eq_map_of_forall₂ MarkedParam.SameButMarkers.toParam_eq h.params, h.others]
  rfl

theorem EventEntry.SameButMarkers.toMethod_eq (e e' : EventEntry) (h : e.SameButMarkers e') :
    e.toMethod = e'.toMethod := by
  rw [toMethod, map_eq_map_of_forall₂ MarkedParam.SameButMarkers.toParam_eq h.params, h.others]
  rfl

theorem UpdateEntry.SameButMarkers.toMethod_eq (e e' : UpdateEntry) (h : e.SameButMarkers e') :
    e.toMethod = e'.toMethod := by
  rw [toMethod, map_eq_map_of_forall₂ MarkedParam.SameButMarkers.toParam_eq h.params, h.others]
  rfl

namespace Document

/-- **Documents with the same sets of markers make the same draft.** -/
theorem SameButMarkers.toDraft_eq {d d' : Document} (h : d.SameButMarkers d') :
    d.toDraft = d'.toDraft := by
  have hdelegates : d.delegateMethods.map (·.map DelegateEntry.toMethod)
      = d'.delegateMethods.map (·.map DelegateEntry.toMethod) := by
    refine option_map_eq_map_of_rel (fun es es' hentries => ?_) h.delegateMethods
    exact map_eq_map_of_forall₂ DelegateEntry.SameButMarkers.toMethod_eq hentries
  have hevents := map_eq_map_of_forall₂ EventEntry.SameButMarkers.toMethod_eq h.eventMethods
  have htriggers := map_eq_map_of_forall₂ EventEntry.SameButMarkers.toMethod_eq h.triggerMethods
  have hupdates := map_eq_map_of_forall₂ UpdateEntry.SameButMarkers.toMethod_eq h.updateMethods
  rw [toDraft, hdelegates, hevents, htriggers, hupdates, h.others]
  rfl

/-- **Markers count as sets, and all else is kept.** The classified parameter is the one parameter
that has the category of the markers and, wherever the category has a place for it, all that is
marked; the category is the same for all lists of the same markers; and documents that differ in
nothing but the order and number of markers give the same model or have the same flaw. -/
theorem built_from_marker_sets :
    (∀ (m : MarkedParam) (p : Param), p = m.toParam ↔ m.KeptIn p)
      ∧ (∀ ms ms' : List Marker, (∀ x, x ∈ ms ↔ x ∈ ms') →
        Category.ofMarkers ms = Category.ofMarkers ms')
      ∧ ∀ d d' : Document, d.SameButMarkers d' → d.build = d'.build := by
  refine ⟨fun m p => MarkedParam.eq_toParam_iff_keptIn, fun ms ms' => Category.ofMarkers_congr, ?_⟩
  intro d d' h
  rw [build, build, h.toDraft_eq]

/-- The state value of `cardDocument` with its markers in another order, one of them repeated. -/
def remarkedCount : MarkedParam :=
  { name := "count", typeName := ⟨"int"⟩, markers := [.diff, .state, .diff] }

/-- `cardDocument` with its markers repeated and in another order. -/
def remarkedCard : Document :=
  { cardDocument with
    delegateMethods := some
      [{ hook := .onCreateLayout
         name := "render"
         returnType := some ⟨"Component"⟩
         params := [{ name := "title", typeName := ⟨"String"⟩, markers := [.prop, .prop] },
           remarkedCount] },
        { hook := .onError, name := "fail" }] }

/-- The two markers of the count make it a diff of a state value, in any order. -/
theorem built_from_marker_sets_remarkedCard :
    cardDocument.SameButMarkers remarkedCard ∧ cardDocument ≠ remarkedCard
      ∧ cardDocument.build = remarkedCard.build
      ∧ remarkedCard.build = .ok cardDocumentModel
      ∧ remarkedCount.KeptIn (.diffStateValue
          { underlying := { name := "count", typeName := ⟨"int"⟩ }
            diffType := ⟨"Diff<int>"⟩ }) := by
  have hsame : cardDocument.SameButMarkers remarkedCard := by
    refine ⟨rfl, .some (.cons ⟨rfl, ?_⟩ (.cons ⟨rfl, .nil⟩ .nil)), ?_, ?_, ?_⟩
    · refine .cons ⟨rfl, fun x => ?_⟩ (.cons ⟨rfl, fun x => ?_⟩ .nil)
      · cases x <;> decide
      · cases x <;> decide
    · exact .cons ⟨rfl, .nil⟩ .nil
    · exact .cons ⟨rfl, .nil⟩ .nil
    · exact .cons ⟨rfl, .nil⟩ .nil
  have hbuild : cardDocument.build = remarkedCard.build := built_from_marker_sets.2.2 _ _ hsame
  refine ⟨hsame, by decide, hbuild, hbuild.symm.trans rfl, ?_⟩
  exact (built_from_marker_sets.1 remarkedCount _).1 (by decide +kernel)

end Document
end ComponentSpec
