import ComponentSpec.Proofs.Roles
import ComponentSpec.Proofs.Surface

set_option autoImplicit false

/-! # Parameters that are not looked at

Plain parameters may be deleted from all methods, and diffs from all methods but the delegates. A
rule for synthetic methods could notice, as it is shown the delegate methods whole; one that looks
at their hooks alone does not (`SyntheticRule.ReadsHooks`). Under such rules the same methods are
added, all methods keep their roles (`Draft.sameRoles_stripped`), and the fingerprint, which reads
the names of methods and events, sees no parameter at all. `Draft.outcomes_stripped` compares the
builds, and `Draft.outcomes_differ_plainReader` shows what a rule does that looks further. -/

namespace ComponentSpec

/-! ## Stripping methods -/

/-- The method without its plain parameters. -/
def DelegateMethod.stripped (m : DelegateMethod) : DelegateMethod :=
  { m with params := m.params.filter fun p => p.category ≠ .plain }

/-- The method without its plain parameters and its diffs. -/
def EventMethod.stripped (m : EventMethod) : EventMethod :=
  { m with params := m.params.filter fun p => p.category.isDeclaration }

/-- The method without its plain parameters and its diffs. -/
def UpdateMethod.stripped (m : UpdateMethod) : UpdateMethod :=
  { m with params := m.params.filter fun p => p.category.isDeclaration }

/-- What is kept may be looked for before or after the rest goes. -/
theorem filter_category_filter (kept looks : Category → Bool)
    (h : ∀ c, looks c = true → kept c = true) (ps : List Param) :
    ((ps.filter fun p => kept p.category).filter fun p => looks p.category)
      = ps.filter fun p => looks p.category := by
  rw [List.filter_filter]
  refine List.filter_congr fun p _ => ?_
  rw [Bool.and_eq_left_iff_imp]
  exact h p.category

/-- The parameters of methods that lost some are those that all methods kept. -/
theorem flatMap_map_of_filtered {M : Type} {strip : M → M} {params : M → List Param}
    {kept : Param → Bool} (ms : List M) (h : ∀ m, params (strip m) = (params m).filter kept) :
    (ms.map strip).flatMap params = (ms.flatMap params).filter kept := by
  rw [List.filter_flatMap, List.flatMap_map, funext h]

/-! ## Rules that look at hooks -/

namespace SyntheticRule

/-- The rule decides as rules are meant to, by the hooks that the delegate methods carry, whatever
else these methods have. -/
def ReadsHooks (rule : SyntheticRule) : Prop :=
  ∀ ds ds' : List DelegateMethod, ds.map (·.hook) = ds'.map (·.hook) →
    rule.applies ds = rule.applies ds'

theorem readsHooks_errorHandler : errorHandler.ReadsHooks := by
  intro ds ds' h
  have hany : ∀ ds : List DelegateMethod,
      errorHandler.applies ds = (ds.map (·.hook)).any fun hook => hook = .onError := by
    intro ds
    rw [List.any_map]
    rfl
  rw [hany, hany, h]

theorem ReadsHooks.applies_stripped {rule : SyntheticRule} (h : rule.ReadsHooks)
    (delegates : List DelegateMethod) :
    rule.applies (delegates.map (·.stripped)) = rule.applies delegates := by
  refine h _ _ ?_
  rw [List.map_map]
  rfl

theorem added_stripped {rules : List SyntheticRule} (h : ∀ r ∈ rules, r.ReadsHooks)
    (delegates : List DelegateMethod) :
    added rules (delegates.map (·.stripped)) = added rules delegates := by
  rw [added, added]
  refine congrArg (List.map method) (List.filter_congr fun rule hrule => ?_)
  exact (h rule hrule).applies_stripped delegates

end SyntheticRule

/-! ## Stripping drafts -/

namespace Draft

/-- The draft without plain parameters, and with diffs on delegate methods only. -/
def stripped (d : Draft) : Draft :=
  { d with
    delegateMethods := d.delegateMethods.map fun ms => ms.map (·.stripped)
    eventMethods := d.eventMethods.map (·.stripped)
    triggerMethods := d.triggerMethods.map (·.stripped)
    updateMethods := d.updateMethods.map (·.stripped) }

theorem checked_stripped (d : Draft) : d.checked = d.stripped.checked := by
  rw [checked, checked, stripped]
  cases d.delegateMethods with
  | none => rfl
  | some ms =>
      cases d.props with
      | none => rfl
      | some ps => rfl

theorem getD_delegateMethods_stripped (d : Draft) :
    d.stripped.delegateMethods.getD [] = (d.delegateMethods.getD []).map (·.stripped) := by
  rw [stripped]
  cases d.delegateMethods with
  | none => rfl
  | some ms => rfl

theorem delegate_groups_stripped (d : Draft) :
    d.stripped.groups.delegate = d.groups.delegate.map (·.stripped) :=
  d.getD_delegateMethods_stripped

theorem delegateParams_stripped (d : Draft) :
    d.stripped.groups.delegateParams
      = d.groups.delegateParams.filter fun p => p.category ≠ .plain := by
  rw [MethodGroups.delegateParams, delegate_groups_stripped]
  exact flatMap_map_of_filtered d.groups.delegate fun _ => rfl

theorem sameRoles_stripped {d : Draft} (hrules : ∀ r ∈ d.rules, r.ReadsHooks) :
    d.stripped.groups.SameRoles d.groups where
  declarations := by
    have hdelegates := filter_category_filter (fun c => c ≠ .plain) Category.isDeclaration
      (fun _ hc => decide_eq_true (Category.ne_plain_of_isDeclaration hc)) d.groups.delegateParams
    have hothers := filter_category_filter Category.isDeclaration Category.isDeclaration
      fun _ hc => hc
    have hadded : SyntheticRule.added d.stripped.rules d.stripped.groups.delegate
        = SyntheticRule.added d.rules d.groups.delegate := by
      rw [delegate_groups_stripped]
      exact SyntheticRule.added_stripped hrules _
    have hevents : d.stripped.eventMethods.flatMap (·.params)
        = (d.eventMethods.flatMap (·.params)).filter fun p => p.category.isDeclaration :=
      flatMap_map_of_filtered d.eventMethods fun _ => rfl
    have htriggers : d.stripped.triggerMethods.flatMap (·.params)
        = (d.triggerMethods.flatMap (·.params)).filter fun p => p.category.isDeclaration :=
      flatMap_map_of_filtered d.triggerMethods fun _ => rfl
    have hupdates : d.stripped.updateMethods.flatMap (·.params)
        = (d.updateMethods.flatMap (·.params)).filter fun p => p.category.isDeclaration :=
      flatMap_map_of_filtered d.updateMethods fun _ => rfl
    rw [declarations_groups, declarations_groups, hadded, delegateParams_stripped, hevents,
      htriggers, hupdates]
    simp only [List.filter_append, hdelegates, hothers]
  diffs := by
    rw [MethodGroups.diffs, delegateParams_stripped]
    exact filter_category_filter (fun c => c ≠ .plain) Category.isDiff
      (fun _ hc => decide_eq_true (Category.ne_plain_of_isDiff hc)) d.groups.delegateParams

theorem modelOf_stripped {d : Draft} (hrules : ∀ r ∈ d.rules, r.ReadsHooks) (qualified : String)
    (anchor : SourceAnchor) :
    d.stripped.modelOf qualified anchor
      = { d.modelOf qualified anchor with
          delegateMethods := d.groups.delegate.map (·.stripped)
          eventMethods := SyntheticRule.combine d.rules d.groups.delegate
            (d.eventMethods.map (·.stripped))
          triggerMethods := d.triggerMethods.map (·.stripped)
          updateMethods := d.updateMethods.map (·.stripped) } := by
  refine (modelOf_withMethods d d.stripped.delegateMethods d.stripped.eventMethods
    d.stripped.triggerMethods d.stripped.updateMethods d.rules (sameRoles_stripped hrules)
    qualified anchor).trans ?_
  rw [getD_delegateMethods_stripped, SyntheticRule.combine, SyntheticRule.added_stripped hrules]
  rfl

/-- Methods keep their names and events when they lose parameters. -/
theorem hashedSurface_stripped {d : Draft} (hrules : ∀ r ∈ d.rules, r.ReadsHooks)
    (qualified : String) (anchor : SourceAnchor) :
    (d.stripped.modelOf qualified anchor).hashedSurface
      = (d.modelOf qualified anchor).hashedSurface := by
  have hdelegates : (d.groups.delegate.map (·.stripped)).map (·.name)
      = d.groups.delegate.map (·.name) := by
    rw [List.map_map]
    rfl
  have hevents : (SyntheticRule.combine d.rules d.groups.delegate
        (d.eventMethods.map (·.stripped))).map (fun e => (e.name, e.event.name))
      = d.groups.event.map fun e => (e.name, e.event.name) := by
    rw [groups, SyntheticRule.combine, SyntheticRule.combine, List.map_append, List.map_append,
      List.map_map]
    rfl
  rw [modelOf_stripped hrules, Model.hashedSurface, hdelegates, hevents]
  rfl

/-- **Parameters that are not looked at leave no trace.** Under rules that decide by hooks, a draft
and the same draft without its plain parameters, and without the diffs on other methods than
delegates, have the same flaw, or models that agree in all but the methods themselves and have the
same fingerprint. -/
theorem outcomes_stripped (d : Draft) (hrules : ∀ r ∈ d.rules, r.ReadsHooks) :
    Outcomes (fun m m' =>
        m' = { m with
            delegateMethods := m'.delegateMethods
            eventMethods := m'.eventMethods
            triggerMethods := m'.triggerMethods
            updateMethods := m'.updateMethods }
          ∧ m'.fingerprint = m.fingerprint)
      d.build d.stripped.build := by
  refine .of_checked_eq d.checked_stripped fun qualified anchor => ⟨?_, ?_⟩
  · rw [modelOf_stripped hrules]
  · rw [Model.fingerprint, Model.fingerprint,
      Surface.ofModel_congr (hashedSurface_stripped hrules qualified anchor)]

/-- A spec with parameters that are not looked at, on a method that handles errors and on an event
method, built under some rules. -/
def chattyCard (rules : List SyntheticRule) : Draft :=
  { qualifiedName := some "com.example.CardSpec"
    delegateMethods := some [
      { hook := .onError
        name := "fail"
        params := [.plain { name := "c", typeName := ⟨"ComponentContext"⟩ },
          .prop { name := "title", typeName := ⟨"String"⟩ },
          .diffProp (.ofProp { name := "count", typeName := ⟨"int"⟩ })] }]
    eventMethods := [.handling { name := ⟨"TapEvent"⟩ } "onTap"
      [.diffProp (.ofProp { name := "size", typeName := ⟨"int"⟩ }),
        .plain { name := "view", typeName := ⟨"View"⟩ }]]
    cache := ⟨["heading", "total"]⟩
    anchor := some { origin := "CardSpec.java" }
    rules := rules }

/-- The model of `chattyCard`. -/
def chattyCardModel (rules : List SyntheticRule) : Model :=
  (chattyCard rules).modelOf "com.example.CardSpec" { origin := "CardSpec.java" }

/-- The model of `chattyCard` without the parameters that are not looked at. -/
def strippedCardModel (rules : List SyntheticRule) : Model :=
  (chattyCard rules).stripped.modelOf "com.example.CardSpec" { origin := "CardSpec.java" }

/-- The props stay as they are, and with them the names that the cache gives them. -/
theorem outcomes_stripped_chattyCard :
    (∀ r ∈ SyntheticRule.standard, r.ReadsHooks)
      ∧ (chattyCardModel SyntheticRule.standard).delegateMethods
        ≠ (strippedCardModel SyntheticRule.standard).delegateMethods
      ∧ (strippedCardModel SyntheticRule.standard).props.map (·.name) = ["heading", "total"]
      ∧ (strippedCardModel SyntheticRule.standard).props
        = (chattyCardModel SyntheticRule.standard).props
      ∧ (strippedCardModel SyntheticRule.standard).fingerprint
        = (chattyCardModel SyntheticRule.standard).fingerprint := by
  have hrules : ∀ r ∈ SyntheticRule.standard, r.ReadsHooks := by
    intro r hr
    obtain rfl := List.mem_singleton.1 hr
    exact SyntheticRule.readsHooks_errorHandler
  have h : Outcomes _ (.ok (chattyCardModel SyntheticRule.standard))
      (.ok (strippedCardModel SyntheticRule.standard)) :=
    outcomes_stripped (chattyCard SyntheticRule.standard) hrules
  cases h with
  | built h =>
      obtain ⟨hothers, hfingerprint⟩ := h
      have hprops : (strippedCardModel SyntheticRule.standard).props
          = (chattyCardModel SyntheticRule.standard).props :=
        (congrArg Model.props hothers).trans rfl
      exact ⟨hrules, by decide +kernel, by decide +kernel, hprops, hfingerprint⟩

/-- A rule that looks for plain parameters. -/
def plainReader : SyntheticRule where
  name := "plain_reader"
  applies delegates := delegates.any fun m => m.params.any fun p => p.category = .plain
  method := .handling { name := ⟨"LogEvent"⟩ } "onLog"
    [.prop { name := "logger", typeName := ⟨"Logger"⟩ }]

/-- A rule that looks further than at hooks may add a prop for a parameter that is deleted. -/
theorem outcomes_differ_plainReader :
    ¬ plainReader.ReadsHooks
      ∧ (chattyCard [plainReader]).build = .ok (chattyCardModel [plainReader])
      ∧ (chattyCard [plainReader]).stripped.build = .ok (strippedCardModel [plainReader])
      ∧ (chattyCardModel [plainReader]).rawProps.length = 3
      ∧ (strippedCardModel [plainReader]).rawProps.length = 2
      ∧ (chattyCardModel [plainReader]).fingerprint
        ≠ (strippedCardModel [plainReader]).fingerprint := by
  refine ⟨fun h => ?_, rfl, rfl, by decide +kernel, by decide +kernel, by decide +kernel⟩
  have hsame := h.applies_stripped ((chattyCard [plainReader]).delegateMethods.getD [])
  exact absurd hsame (by decide +kernel)

end Draft
end ComponentSpec
