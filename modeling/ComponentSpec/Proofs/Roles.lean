import ComponentSpec.Proofs.Outcomes
import Mathlib.Data.List.Basic

set_option autoImplicit false

/-! # Parameters that play a part

Of all parameters a build looks at the declarations, on any method, and at the diffs, on delegate
methods only; plain parameters are not looked at. Every scan of the methods reads one of these two
lists (`MethodGroups.SameRoles`), so drafts that agree in both derive the same
(`Draft.modelOf_withMethods`).

The first use is for synthetic methods. They stand among the event methods, which every scan runs
over, so a rule may well add declarations. One whose method has plain parameters only adds none
(`SyntheticRule.DeclaresNothing`), and changes nothing but the list that its method is added to. The
error handler is such a method (`Draft.outcomes_errorHandlers`). -/

namespace ComponentSpec

/-! ## Categories by what they are good for -/

namespace Category

/-- The parameter has the previous and the next of a value. -/
def isDiff : Category → Bool
  | .diffProp | .diffStateValue | .renderDataDiff => true
  | _ => false

/-- The parameter declares a value. -/
def isDeclaration (c : Category) : Bool :=
  c ≠ .plain && !c.isDiff

theorem ne_plain_of_isDiff {c : Category} (h : c.isDiff = true) : c ≠ .plain := by
  rintro rfl
  exact Bool.false_ne_true h

theorem ne_plain_of_isDeclaration {c : Category} (h : c.isDeclaration = true) : c ≠ .plain := by
  rintro rfl
  exact Bool.false_ne_true h

end Category

namespace Param

/-- The projection is for the parameters of one category. -/
def Picks {α : Type} (f : Param → Option α) (c : Category) : Prop :=
  ∀ p, (f p).isSome = true ↔ p.category = c

theorem picks_prop? : Picks prop? .prop := by
  intro p
  cases p <;> simp [prop?, category]

theorem picks_injectProp? : Picks injectProp? .injectProp := by
  intro p
  cases p <;> simp [injectProp?, category]

theorem picks_stateValue? : Picks stateValue? .stateValue := by
  intro p
  cases p <;> simp [stateValue?, category]

theorem picks_diffStateValue? : Picks diffStateValue? .diffStateValue := by
  intro p
  cases p <;> simp [diffStateValue?, category]

theorem picks_diffProp? : Picks diffProp? .diffProp := by
  intro p
  cases p <;> simp [diffProp?, category]

theorem picks_interStageInput? : Picks interStageInput? .interStageInput := by
  intro p
  cases p <;> simp [interStageInput?, category]

theorem picks_treeValue? : Picks treeValue? .treeValue := by
  intro p
  cases p <;> simp [treeValue?, category]

theorem picks_renderDataDiff? : Picks renderDataDiff? .renderDataDiff := by
  intro p
  cases p <;> simp [renderDataDiff?, category]

/-- What is scanned for one category may be cut down to more categories first. -/
theorem Picks.filterMap_filter {α : Type} {f : Param → Option α} {c : Category} (hf : Picks f c)
    {looks : Category → Bool} (hc : looks c = true) (ps : List Param) :
    (ps.filter fun p => looks p.category).filterMap f = ps.filterMap f := by
  rw [List.filterMap_filter]
  refine List.filterMap_congr fun p _ => ?_
  cases hlooks : looks p.category with
  | true => rw [if_pos rfl]
  | false =>
      rw [if_neg Bool.false_ne_true]
      have hne : p.category ≠ c := fun heq => by
        rw [heq, hc] at hlooks
        exact Bool.false_ne_true hlooks.symm
      exact (Option.not_isSome_iff_eq_none.1 (mt (hf p).1 hne)).symm

end Param

/-! ## Methods with the same roles -/

namespace MethodGroups

/-- The declarations on all methods. -/
def declarations (g : MethodGroups) : List Param :=
  g.params.filter fun p => p.category.isDeclaration

/-- The diffs on delegate methods. -/
def diffs (g : MethodGroups) : List Param :=
  g.delegateParams.filter fun p => p.category.isDiff

/-- The methods agree in all parameters that a build looks at. -/
structure SameRoles (g g' : MethodGroups) : Prop where
  declarations : g.declarations = g'.declarations
  diffs : g.diffs = g'.diffs

namespace SameRoles

variable {g g' : MethodGroups} {α : Type} {f : Param → Option α} {c : Category}

theorem filterMap_params (h : g.SameRoles g') (hf : Param.Picks f c)
    (hc : c.isDeclaration = true) : g.params.filterMap f = g'.params.filterMap f := by
  rw [← hf.filterMap_filter hc, ← hf.filterMap_filter hc g'.params]
  exact congrArg (List.filterMap f) h.declarations

theorem filterMap_delegateParams (h : g.SameRoles g') (hf : Param.Picks f c)
    (hc : c.isDiff = true) : g.delegateParams.filterMap f = g'.delegateParams.filterMap f := by
  rw [← hf.filterMap_filter hc, ← hf.filterMap_filter hc g'.delegateParams]
  exact congrArg (List.filterMap f) h.diffs

theorem propDiffs_eq (h : g.SameRoles g') : g.propDiffs = g'.propDiffs :=
  h.filterMap_delegateParams Param.picks_diffProp? rfl

theorem rawProps_eq (h : g.SameRoles g') : g.rawProps = g'.rawProps := by
  have hprops : g.scannedProps = g'.scannedProps := h.filterMap_params Param.picks_prop? rfl
  rw [rawProps, rawProps, hprops, h.propDiffs_eq]

theorem scannedInjectProps_eq (h : g.SameRoles g') :
    g.scannedInjectProps = g'.scannedInjectProps :=
  h.filterMap_params Param.picks_injectProp? rfl

theorem stateValues_eq (h : g.SameRoles g') : g.stateValues = g'.stateValues := by
  have hvalues : g.scannedStateValues = g'.scannedStateValues :=
    h.filterMap_params Param.picks_stateValue? rfl
  have hdiffs : g.stateDiffs = g'.stateDiffs :=
    h.filterMap_delegateParams Param.picks_diffStateValue? rfl
  rw [stateValues, stateValues, hvalues, hdiffs]

theorem stageInputs_eq (h : g.SameRoles g') : g.stageInputs = g'.stageInputs :=
  congrArg inKeyOrder (h.filterMap_params Param.picks_interStageInput? rfl)

theorem treeValues_eq (h : g.SameRoles g') : g.treeValues = g'.treeValues :=
  congrArg inKeyOrder (h.filterMap_params Param.picks_treeValue? rfl)

theorem renderDiffs_eq (h : g.SameRoles g') : g.renderDiffs = g'.renderDiffs :=
  congrArg inKeyOrder (h.filterMap_delegateParams Param.picks_renderDataDiff? rfl)

end SameRoles
end MethodGroups

/-! ## Drafts with other methods -/

namespace Draft

/-- The draft with other methods and rules. -/
def withMethods (d : Draft) (delegates : Option (List DelegateMethod))
    (events triggers : List EventMethod) (updates : List UpdateMethod)
    (rules : List SyntheticRule) : Draft :=
  { d with
    delegateMethods := delegates
    eventMethods := events
    triggerMethods := triggers
    updateMethods := updates
    rules := rules }

/-- **Methods with the same roles make the same model**, but for the methods themselves. -/
theorem modelOf_withMethods (d : Draft) (delegates : Option (List DelegateMethod))
    (events triggers : List EventMethod) (updates : List UpdateMethod)
    (rules : List SyntheticRule)
    (h : (d.withMethods delegates events triggers updates rules).groups.SameRoles d.groups)
    (qualified : String) (anchor : SourceAnchor) :
    (d.withMethods delegates events triggers updates rules).modelOf qualified anchor
      = { d.modelOf qualified anchor with
          delegateMethods := delegates.getD []
          eventMethods := SyntheticRule.combine rules (delegates.getD []) events
          triggerMethods := triggers
          updateMethods := updates } := by
  have hprops : (d.withMethods delegates events triggers updates rules).finalProps
      = d.finalProps := by
    rw [finalProps, h.rawProps_eq, h.propDiffs_eq]
    rfl
  have hraw : (d.withMethods delegates events triggers updates rules).rawInjectProps
      = d.rawInjectProps := by
    rw [rawInjectProps, h.scannedInjectProps_eq]
    rfl
  have hinject : (d.withMethods delegates events triggers updates rules).finalInjectProps
      = d.finalInjectProps := by
    rw [finalInjectProps, hprops, hraw]
    rfl
  rw [modelOf, h.rawProps_eq, hprops, hraw, hinject, h.stateValues_eq, h.stageInputs_eq,
    h.treeValues_eq, h.renderDiffs_eq]
  rfl

/-- The parameters of the methods that were written besides the delegates, in scan order. -/
def otherParams (d : Draft) : List Param :=
  d.eventMethods.flatMap (·.params) ++ d.triggerMethods.flatMap (·.params)
    ++ d.updateMethods.flatMap (·.params)

end Draft

/-! ## Synthetic methods -/

namespace SyntheticRule

/-- The rule's method declares nothing that a build looks at. -/
def DeclaresNothing (rule : SyntheticRule) : Prop :=
  (rule.method.params.filter fun p => p.category.isDeclaration) = []

theorem declaresNothing_errorHandler : errorHandler.DeclaresNothing := rfl

theorem declarations_added {rules : List SyntheticRule} (h : ∀ r ∈ rules, r.DeclaresNothing)
    (delegates : List DelegateMethod) :
    ((added rules delegates).flatMap (·.params)).filter (fun p => p.category.isDeclaration)
      = [] := by
  rw [added, List.flatMap_map, List.filter_flatMap, List.flatMap_eq_nil_iff]
  intro rule hrule
  exact h rule (List.mem_of_mem_filter hrule)

theorem applies_errorHandler_iff {delegates : List DelegateMethod} :
    errorHandler.applies delegates = true ↔ ∃ e ∈ delegates, e.hook = .onError := by
  simp [errorHandler]

theorem combine_replicate (n : Nat) (delegates : List DelegateMethod) (events : List EventMethod) :
    combine (.replicate n .errorHandler) delegates events
      = events ++ .replicate (if ∃ e ∈ delegates, e.hook = .onError then n else 0)
        internalErrorHandler := by
  rw [combine, added, List.filter_replicate,
    ite_congr (propext applies_errorHandler_iff) (fun _ => rfl) fun _ => rfl]
  split
  · rw [List.map_replicate]
    rfl
  · rfl

end SyntheticRule

namespace Draft

theorem declarations_groups (d : Draft) :
    d.groups.declarations
      = (d.groups.delegateParams ++ d.eventMethods.flatMap (·.params)
          ++ (SyntheticRule.added d.rules d.groups.delegate).flatMap (·.params)
          ++ d.triggerMethods.flatMap (·.params)
          ++ d.updateMethods.flatMap (·.params)).filter fun p => p.category.isDeclaration := by
  show List.filter _ (_ ++ (SyntheticRule.combine ..).flatMap _ ++ _ ++ _) = _
  rw [SyntheticRule.combine, List.flatMap_append, ← List.append_assoc]
  rfl

/-- Rules that declare nothing leave the declarations to the written methods. -/
theorem declarations_groups_of_declaresNothing {d : Draft} (h : ∀ r ∈ d.rules, r.DeclaresNothing) :
    d.groups.declarations
      = (d.groups.delegateParams ++ d.otherParams).filter fun p => p.category.isDeclaration := by
  rw [declarations_groups, otherParams]
  simp only [List.filter_append, SyntheticRule.declarations_added h, List.append_assoc,
    List.nil_append]

/-- Rules that declare nothing make no difference to what a build looks at. -/
theorem sameRoles_withRules (d : Draft) {rules rules' : List SyntheticRule}
    (h : ∀ r ∈ rules, r.DeclaresNothing) (h' : ∀ r ∈ rules', r.DeclaresNothing) :
    ({ d with rules := rules } : Draft).groups.SameRoles { d with rules := rules' }.groups where
  declarations := (declarations_groups_of_declaresNothing (d := { d with rules := rules }) h).trans
    (declarations_groups_of_declaresNothing (d := { d with rules := rules' }) h').symm
  diffs := rfl

/-- **Synthetic methods do not interfere.** A draft with `n` rules for the error handler and the
same draft with none have the same flaw, or models that differ in their event methods alone: the
second has those that were written, and the first has `n` error handlers behind them if a delegate
method handles errors, and otherwise none. -/
theorem outcomes_errorHandlers (d : Draft) (n : Nat) :
    Outcomes (fun m m₀ =>
        m = { m₀ with eventMethods := m.eventMethods }
          ∧ m₀.eventMethods = d.eventMethods
          ∧ m.eventMethods = m₀.eventMethods
            ++ .replicate (if ∃ e ∈ d.delegateMethods.getD [], e.hook = .onError then n else 0)
              internalErrorHandler)
      { d with rules := .replicate n .errorHandler }.build { d with rules := [] }.build := by
  refine .of_checked_eq rfl fun qualified anchor => ?_
  have hrules : ∀ r ∈ List.replicate n SyntheticRule.errorHandler, r.DeclaresNothing := by
    intro r hr
    obtain rfl := List.eq_of_mem_replicate hr
    exact SyntheticRule.declaresNothing_errorHandler
  have hsame : ({ d with rules := .replicate n .errorHandler } : Draft).groups.SameRoles
      { d with rules := [] }.groups :=
    sameRoles_withRules d hrules (by simp)
  have hmodel : ({ d with rules := .replicate n .errorHandler } : Draft).modelOf qualified anchor
      = { ({ d with rules := [] } : Draft).modelOf qualified anchor with
          eventMethods := SyntheticRule.combine (.replicate n .errorHandler)
            (d.delegateMethods.getD []) d.eventMethods } :=
    modelOf_withMethods { d with rules := [] } d.delegateMethods d.eventMethods d.triggerMethods
      d.updateMethods (.replicate n .errorHandler) hsame qualified anchor
  have hwritten : (({ d with rules := [] } : Draft).modelOf qualified anchor).eventMethods
      = d.eventMethods :=
    List.append_nil _
  rw [hmodel, hwritten]
  exact ⟨rfl, rfl, SyntheticRule.combine_replicate ..⟩

/-- What is added: a handler of errors that takes the context of the component and the error. -/
example : internalErrorHandler =
    { name := "__internalOnErrorHandler"
      returnType := ⟨"void"⟩
      params := [.plain { name := "c", typeName := ⟨"ComponentContext"⟩, annotations := [] },
        .plain
          { name := "exception", typeName := ⟨"Exception"⟩, annotations := ["FromEvent"] }]
      event :=
        { name := ⟨"ErrorEvent"⟩
          returnType := ⟨"void"⟩
          fields := [{ name := "exception", typeName := ⟨"Exception"⟩ }] } } :=
  rfl

end Draft

end ComponentSpec
