import ComponentSpec.Proofs.Roles
import ComponentSpec.Proofs.Values
import Mathlib.Algebra.Ring.Nat

set_option autoImplicit false

/-! # Parameters by category

There are two ways to the parameters of one category: to ask each parameter for its category, or to
look into it for a declaration of that kind. Both find the same (`Param.Projects.map_filterMap`). As
every parameter has one category, the lists of all nine make up the parameters, each of them
once (`MethodGroups.paramsOf_partition`). -/

namespace ComponentSpec

/-! ## Parameters of one category -/

namespace Param

theorem projects_injectProp? : Projects injectProp? .injectProp := by
  intro p a
  cases p <;> simp [injectProp?]

section

variable {α : Type} {f : Param → Option α} {make : α → Param} {c : Category}

/-- **What a projection finds are the parameters of its category**, without what holds them. -/
theorem Picks.map_filterMap (hf : Picks f c) (hmake : Projects f make) (ps : List Param) :
    (ps.filterMap f).map make = ps.filter fun p => p.category = c := by
  induction ps with
  | nil => rfl
  | cons p ps ih =>
      rw [List.filterMap_cons]
      cases hp : f p with
      | none =>
          have hne : ¬ p.category = c := by
            rw [← hf p, hp]
            exact Bool.false_ne_true
          rw [List.filter_cons_of_neg (by simpa using hne)]
          exact ih
      | some a =>
          have heq : p.category = c := by
            rw [← hf p, hp]
            rfl
          rw [List.filter_cons_of_pos (by simpa using heq), ← ih, (hmake p a).1 hp]
          rfl

end

theorem mem_filter_category_iff {ps : List Param} {p : Param} {c : Category} :
    (p ∈ ps.filter fun q => q.category = c) ↔ p ∈ ps ∧ p.category = c := by
  rw [List.mem_filter, decide_eq_true_iff]

theorem count_filter_category (ps : List Param) (p : Param) (c : Category) :
    (ps.filter fun q => q.category = c).count p = if p.category = c then ps.count p else 0 := by
  by_cases h : p.category = c
  · rw [if_pos h, List.count_filter (by simpa using h)]
  · rw [if_neg h, List.count_eq_zero]
    intro hmem
    exact h (mem_filter_category_iff.1 hmem).2

/-- Each category is among all of them once. -/
theorem sum_map_all_ite (c : Category) (n : Nat) :
    (Category.all.map fun k => if c = k then n else 0).sum = n := by
  cases c <;> simp [Category.all]

/-- **The categories part the parameters**: the lists of all categories together have each as often
as it was there before. -/
theorem perm_flatMap_filter_category (ps : List Param) :
    (Category.all.flatMap fun c => ps.filter fun p => p.category = c).Perm ps := by
  rw [List.perm_iff_count]
  intro p
  rw [List.count_flatMap]
  calc (Category.all.map (List.count p ∘ fun c => ps.filter fun q => q.category = c)).sum
      = (Category.all.map fun c => if p.category = c then ps.count p else 0).sum :=
        congrArg List.sum (List.map_congr_left fun c _ => count_filter_category ps p c)
    _ = ps.count p := sum_map_all_ite p.category (ps.count p)

end Param

/-- What a filter leaves has every part of the list in which all pass the test. -/
theorem sublist_filter_iff_and_forall {α : Type} {q : α → Bool} {as l : List α} :
    l.Sublist (as.filter q) ↔ l.Sublist as ∧ ∀ a ∈ l, q a = true := by
  constructor
  · intro h
    refine ⟨h.trans List.filter_sublist, ?_⟩
    intro a ha
    exact (List.mem_filter.1 (h.mem ha)).2
  · rintro ⟨hsub, hall⟩
    rw [← List.filter_eq_self.2 hall]
    exact hsub.filter q

/-! ## Methods by category -/

namespace MethodGroups

open Param

theorem sublist_paramsOf_iff (g : MethodGroups) (c : Category) (l : List Param) :
    l.Sublist (g.paramsOf c) ↔ l.Sublist g.params ∧ ∀ p ∈ l, p.category = c := by
  unfold paramsOf
  rw [sublist_filter_iff_and_forall]
  simp only [decide_eq_true_eq]

/-- A parameter stands in the list of its own category and in no other. -/
theorem mem_params_iff_existsUnique (g : MethodGroups) (p : Param) :
    p ∈ g.params ↔ ∃! c, p ∈ g.paramsOf c := by
  unfold paramsOf
  constructor
  · intro hp
    refine ⟨p.category, mem_filter_category_iff.2 ⟨hp, rfl⟩, ?_⟩
    intro c hc
    exact (mem_filter_category_iff.1 hc).2.symm
  · rintro ⟨c, hc, -⟩
    exact (mem_filter_category_iff.1 hc).1

theorem perm_flatMap_paramsOf (g : MethodGroups) :
    (Category.all.flatMap g.paramsOf).Perm g.params :=
  perm_flatMap_filter_category g.params

/-- What is collected from all parameters is collected from those of the category alone. -/
theorem filterMap_paramsOf {α : Type} {f : Param → Option α} {c : Category} (hf : Picks f c)
    (g : MethodGroups) : (g.paramsOf c).filterMap f = g.params.filterMap f :=
  @Picks.filterMap_filter α f c hf (fun k => k = c) (decide_eq_true rfl) g.params

/-- The methods of the first group alone. -/
def delegatesOnly (g : MethodGroups) : MethodGroups :=
  { delegate := g.delegate }

theorem params_delegatesOnly (g : MethodGroups) : g.delegatesOnly.params = g.delegateParams := by
  simp [params, delegatesOnly, delegateParams]

theorem rawProps_eq_append (g : MethodGroups) :
    g.rawProps = (g.paramsOf .prop).filterMap prop?
      ++ ((g.delegatesOnly.paramsOf .diffProp).filterMap diffProp?).map (·.underlying) := by
  rw [filterMap_paramsOf picks_prop?, filterMap_paramsOf picks_diffProp?, params_delegatesOnly]
  rfl

/-- **The categories part the parameters of all methods, and the projections agree with them.** The
list of a category is the part of the scan that has this category: of the sublists of the scan whose
parameters are all of the category it is the one that has all others in it. What the projection of a
category collects over the same scan are the parameters on that list, unwrapped. Every parameter
stands on the list of one category only, the nine lists together have every parameter as often
as the scan has it, and so their lengths add up to its length. The raw props are those on the list
of props and behind them what the diffs of props on delegate methods wrap. -/
theorem paramsOf_partition (g : MethodGroups) :
    (∀ (c : Category) (l : List Param),
        l.Sublist (g.paramsOf c) ↔ l.Sublist g.params ∧ ∀ p ∈ l, p.category = c)
      ∧ ((g.params.filterMap prop?).map .prop = g.paramsOf .prop
        ∧ (g.params.filterMap injectProp?).map .injectProp = g.paramsOf .injectProp
        ∧ (g.params.filterMap stateValue?).map .stateValue = g.paramsOf .stateValue
        ∧ (g.params.filterMap diffStateValue?).map .diffStateValue = g.paramsOf .diffStateValue
        ∧ (g.params.filterMap diffProp?).map .diffProp = g.paramsOf .diffProp
        ∧ (g.params.filterMap interStageInput?).map .interStageInput = g.paramsOf .interStageInput
        ∧ (g.params.filterMap treeValue?).map .treeValue = g.paramsOf .treeValue
        ∧ (g.params.filterMap renderDataDiff?).map .renderDataDiff = g.paramsOf .renderDataDiff)
      ∧ (∀ p, p ∈ g.params ↔ ∃! c, p ∈ g.paramsOf c)
      ∧ (Category.all.flatMap g.paramsOf).Perm g.params
      ∧ (Category.all.map fun c => (g.paramsOf c).length).sum = g.params.length
      ∧ g.rawProps = (g.paramsOf .prop).filterMap prop?
        ++ ((g.delegatesOnly.paramsOf .diffProp).filterMap diffProp?).map (·.underlying) := by
  refine ⟨g.sublist_paramsOf_iff, ?_, g.mem_params_iff_existsUnique, g.perm_flatMap_paramsOf, ?_,
    g.rawProps_eq_append⟩
  · exact ⟨picks_prop?.map_filterMap projects_prop? g.params,
      picks_injectProp?.map_filterMap projects_injectProp? g.params,
      picks_stateValue?.map_filterMap projects_stateValue? g.params,
      picks_diffStateValue?.map_filterMap projects_diffStateValue? g.params,
      picks_diffProp?.map_filterMap projects_diffProp? g.params,
      picks_interStageInput?.map_filterMap projects_interStageInput? g.params,
      picks_treeValue?.map_filterMap projects_treeValue? g.params,
      picks_renderDataDiff?.map_filterMap projects_renderDataDiff? g.params⟩
  · rw [← g.perm_flatMap_paramsOf.length_eq, List.length_flatMap]

end MethodGroups
end ComponentSpec
