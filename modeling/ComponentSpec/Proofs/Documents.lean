import ComponentSpec.Document.Basic
import ComponentSpec.Proofs.Roles
import Mathlib.Data.List.Forall2

set_option autoImplicit false

/-! # What a model keeps of its document

The entries of a document become methods when their parameters are classified, and the methods of
the draft are those of the model. `Carried` says for each kind of entry, and for the whole document,
what has to be found again on the other side. `Document.carried_of_build`: a model has all that its
document says, in the same order, and besides it only the error handler that nobody wrote. -/

namespace ComponentSpec

/-! ## Entries and their methods -/

/-- The parameter is the marked one under the category that the markers stand for. -/
structure MarkedParam.Carried (marked : MarkedParam) (p : Param) : Prop where
  eq_toParam : p = marked.toParam
  category : p.category = .ofMarkers marked.markers

structure DelegateEntry.Carried (e : DelegateEntry) (m : DelegateMethod) : Prop where
  hook : m.hook = e.hook
  name : m.name = e.name
  returnType : m.returnType = e.returnType.getD ⟨"void"⟩
  params : List.Forall₂ MarkedParam.Carried e.params m.params

structure EventEntry.Carried (e : EventEntry) (m : EventMethod) : Prop where
  name : m.name = e.name
  event : m.event = e.event
  returnType : m.returnType = e.event.returnType
  params : List.Forall₂ MarkedParam.Carried e.params m.params

structure UpdateEntry.Carried (e : UpdateEntry) (m : UpdateMethod) : Prop where
  name : m.name = e.name
  isLazy : m.isLazy = e.isLazy
  params : List.Forall₂ MarkedParam.Carried e.params m.params

/-- What becomes of the items one by one is carried one by one. -/
theorem forall₂_map_of_forall {α β : Type} {R : α → β → Prop} {f : α → β} (h : ∀ a, R a (f a))
    (as : List α) : List.Forall₂ R as (as.map f) := by
  rw [List.forall₂_map_right_iff, List.forall₂_same]
  exact fun a _ => h a

theorem carried_params (marked : List MarkedParam) :
    List.Forall₂ MarkedParam.Carried marked (marked.map MarkedParam.toParam) :=
  forall₂_map_of_forall (fun m => ⟨rfl, m.category_toParam⟩) marked

theorem DelegateEntry.carried_toMethod (e : DelegateEntry) : e.Carried e.toMethod where
  hook := rfl
  name := rfl
  returnType := rfl
  params := carried_params e.params

theorem EventEntry.carried_toMethod (e : EventEntry) : e.Carried e.toMethod where
  name := rfl
  event := rfl
  returnType := rfl
  params := carried_params e.params

theorem UpdateEntry.carried_toMethod (e : UpdateEntry) : e.Carried e.toMethod where
  name := rfl
  isLazy := rfl
  params := carried_params e.params

/-! ## Documents and their models -/

namespace Document

/-- The delegate methods, none for a document that has no list of them. -/
def delegateEntries (d : Document) : List DelegateEntry :=
  d.delegateMethods.getD []

/-- All that a document says is found again in the model. -/
structure Carried (d : Document) (m : Model) : Prop where
  delegateMethods : List.Forall₂ DelegateEntry.Carried d.delegateEntries m.delegateMethods
  /-- Behind the written event methods stands the error handler, if a delegate handles errors. -/
  eventMethods : ∃ written, List.Forall₂ EventEntry.Carried d.eventMethods written
    ∧ m.eventMethods = written
      ++ .replicate (if ∃ e ∈ d.delegateEntries, e.hook = .onError then 1 else 0)
        internalErrorHandler
  triggerMethods : List.Forall₂ EventEntry.Carried d.triggerMethods m.triggerMethods
  updateMethods : List.Forall₂ UpdateEntry.Carried d.updateMethods m.updateMethods
  componentClass : m.componentClass = d.componentClass
  typeVariables : m.typeVariables = d.typeVariables
  propDefaults : m.propDefaults = d.propDefaults
  eventDeclarations : m.eventDeclarations = d.eventDeclarations
  builderMethods : m.builderMethods = d.builderMethods
  classAnnotations : m.classAnnotations = d.classAnnotations
  tags : m.tags = d.tags
  classDoc : m.classDoc = d.classDoc
  propDocs : m.propDocs = d.propDocs
  isPublic : m.isPublic = d.isPublic
  injectionHelper : m.injectionHelper = d.injectionHelper
  elementKind : m.elementKind = d.elementKind
  origin : d.origin = some m.anchor

theorem getD_delegateMethods_toDraft (d : Document) :
    d.toDraft.delegateMethods.getD [] = d.delegateEntries.map DelegateEntry.toMethod := by
  rw [toDraft, delegateEntries]
  cases d.delegateMethods with
  | none => rfl
  | some entries => rfl

theorem eventMethods_groups_toDraft (d : Document) :
    d.toDraft.groups.event = d.eventMethods.map EventEntry.toMethod
      ++ .replicate (if ∃ e ∈ d.delegateEntries, e.hook = .onError then 1 else 0)
        internalErrorHandler := by
  have hhandles : (∃ m ∈ d.delegateEntries.map DelegateEntry.toMethod, m.hook = .onError) ↔
      ∃ e ∈ d.delegateEntries, e.hook = .onError := by
    constructor
    · rintro ⟨m, hm, hhook⟩
      obtain ⟨e, he, rfl⟩ := List.mem_map.1 hm
      exact ⟨e, he, hhook⟩
    · rintro ⟨e, he, hhook⟩
      exact ⟨e.toMethod, List.mem_map_of_mem he, hhook⟩
  show SyntheticRule.combine (.replicate 1 .errorHandler) (d.toDraft.delegateMethods.getD []) _ = _
  rw [SyntheticRule.combine_replicate, getD_delegateMethods_toDraft]
  simp only [hhandles]
  rfl

/-- **A model has all that its document says.** Each method of the document is a method of the model
in the same place, with the same name, hook, event and laziness, its parameters classified one by
one; event and trigger methods return what their event declares, delegate methods what is declared
or `void`; and what the document says besides is the model's. -/
theorem carried_of_build {d : Document} {m : Model} (h : d.build = .ok m) : d.Carried m := by
  obtain ⟨qualified, anchor, hchecked, rfl⟩ := Draft.build_eq_ok_iff.1 h
  obtain ⟨-, -, hanchor⟩ := Draft.checked_eq_ok_iff.1 hchecked
  constructor
  case delegateMethods =>
    show List.Forall₂ _ _ (d.toDraft.delegateMethods.getD [])
    rw [getD_delegateMethods_toDraft]
    exact forall₂_map_of_forall DelegateEntry.carried_toMethod _
  case eventMethods =>
    exact ⟨_, forall₂_map_of_forall EventEntry.carried_toMethod _, d.eventMethods_groups_toDraft⟩
  case triggerMethods => exact forall₂_map_of_forall EventEntry.carried_toMethod _
  case updateMethods => exact forall₂_map_of_forall UpdateEntry.carried_toMethod _
  case origin => exact hanchor
  all_goals rfl

/-- A document with a method of each group and an error handler to be added. -/
def cardDocument : Document :=
  { qualifiedName := "com.example.CardSpec"
    origin := some { origin := "CardSpec.java" }
    delegateMethods := some
      [{ hook := .onCreateLayout
         name := "render"
         returnType := some ⟨"Component"⟩
         params := [{ name := "title", typeName := ⟨"String"⟩, markers := [.prop] },
           { name := "count", typeName := ⟨"int"⟩, markers := [.state, .diff] }] },
        { hook := .onError, name := "fail" }]
    eventMethods := [{ name := "onTap", event := { name := ⟨"TapEvent"⟩, returnType := ⟨"bool"⟩ } }]
    triggerMethods := [{ name := "reset", event := { name := ⟨"ResetEvent"⟩ } }]
    updateMethods := [{ name := "raise", isLazy := true }]
    tags := [{ name := ⟨"card"⟩ }]
    isPublic := true }

/-- The model of `cardDocument`. -/
def cardDocumentModel : Model :=
  cardDocument.toDraft.modelOf "com.example.CardSpec" { origin := "CardSpec.java" }

/-- The markers make a prop and a diff of a state value, and behind its one event method the model
has the error handler. -/
theorem carried_cardDocument :
    cardDocument.build = .ok cardDocumentModel
      ∧ cardDocument.Carried cardDocumentModel
      ∧ cardDocumentModel.delegateMethods.map (fun m => (m.hook, m.name, m.returnType))
        = [(.onCreateLayout, "render", ⟨"Component"⟩), (.onError, "fail", ⟨"void"⟩)]
      ∧ cardDocumentModel.groups.delegateParams
        = [.prop { name := "title", typeName := ⟨"String"⟩ },
          .diffStateValue
            { underlying := { name := "count", typeName := ⟨"int"⟩ }
              diffType := ⟨"Diff<int>"⟩ }]
      ∧ cardDocumentModel.eventMethods.map (fun m => (m.name, m.returnType))
        = [("onTap", ⟨"bool"⟩), ("__internalOnErrorHandler", ⟨"void"⟩)] := by
  have hbuild : cardDocument.build = .ok cardDocumentModel := rfl
  refine ⟨hbuild, carried_of_build hbuild, ?_, ?_, ?_⟩
  · decide +kernel
  · decide +kernel
  · decide +kernel

end Document
end ComponentSpec
