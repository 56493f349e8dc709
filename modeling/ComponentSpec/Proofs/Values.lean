import ComponentSpec.Proofs.KeyOrder
import ComponentSpec.Values
import Mathlib.Data.Set.Defs

set_option autoImplicit false

/-! # State, stage, tree and render values by their keys

All four lists are in key order. A diff adds its state value as any declaration would, after those
that the methods declare (`MethodGroups.stateValues_eq_inKeyOrder`), so that a state value is the
first declared one of its key, and one that a diff wraps where none is declared
(`MethodGroups.stateValues_reconciled`). Stage inputs, tree values and render diffs are nothing but
their keys, and the lists of them tell neither how often nor where a key was declared
(`MethodGroups.valueLists_madeOfKeys`). -/

namespace ComponentSpec

/-! ## Keys of parameters -/

section

variable {α : Type}

/-- The projection gives back what the constructor holds, and nothing for other parameters. -/
def Projects (f : Param → Option α) (make : α → Param) : Prop :=
  ∀ p a, f p = some a ↔ p = make a

theorem Projects.mem_filterMap_iff {f : Param → Option α} {make : α → Param}
    (h : Projects f make) (ps : List Param) (a : α) : a ∈ ps.filterMap f ↔ make a ∈ ps := by
  rw [List.mem_filterMap]
  constructor
  · rintro ⟨p, hp, hpa⟩
    exact (h p a).1 hpa ▸ hp
  · intro ha
    exact ⟨make a, ha, (h _ a).2 rfl⟩

variable [Declared α]

/-- The keys of the declarations that parameters of one category hold. -/
def keysOf (make : α → Param) (ps : List Param) : Set Key :=
  {k | ∃ a, make a ∈ ps ∧ Key.of a = k}

theorem Projects.mem_map_key_filterMap_iff {f : Param → Option α} {make : α → Param}
    (h : Projects f make) (ps : List Param) (k : Key) :
    k ∈ (ps.filterMap f).map Key.of ↔ k ∈ keysOf make ps := by
  rw [List.mem_map]
  exact exists_congr fun a => and_congr_left' (h.mem_filterMap_iff ps a)

end

namespace Param

theorem projects_prop? : Projects prop? .prop := by
  intro p a
  cases p <;> simp [prop?]

theorem projects_diffProp? : Projects diffProp? .diffProp := by
  intro p a
  cases p <;> simp [diffProp?]

theorem projects_stateValue? : Projects stateValue? .stateValue := by
  intro p a
  cases p <;> simp [stateValue?]

theorem projects_diffStateValue? : Projects diffStateValue? .diffStateValue := by
  intro p a
  cases p <;> simp [diffStateValue?]

theorem projects_interStageInput? : Projects interStageInput? .interStageInput := by
  intro p a
  cases p <;> simp [interStageInput?]

theorem projects_treeValue? : Projects treeValue? .treeValue := by
  intro p a
  cases p <;> simp [treeValue?]

theorem projects_renderDataDiff? : Projects renderDataDiff? .renderDataDiff := by
  intro p a
  cases p <;> simp [renderDataDiff?]

end Param

/-! ## State values -/

theorem StateDiff.wraps_iff {d : StateDiff} {s : StateParam} :
    d.wraps s = true ↔ Key.of s = Key.of d.underlying := by
  rw [wraps, Bool.and_eq_true, decide_eq_true_iff, decide_eq_true_iff]
  exact (Iff.of_eq (Key.mk.injEq ..)).symm

/-- To look through what a list projects to is to look for the first projection that fits. -/
theorem find?_filterMap_eq_findSome? {α β : Type} (f : α → Option β) (q : β → Bool) (as : List α) :
    (as.filterMap f).find? q = as.findSome? fun a => (f a).filter q := by
  induction as with
  | nil => rfl
  | cons a as ih =>
      rw [List.filterMap_cons, List.findSome?_cons]
      cases f a with
      | none => exact ih
      | some b => cases h : q b <;> simp [Option.filter_some, h, ih]

namespace Param

/-- The first state value of a key that a parameter declares. -/
def firstState? (ps : List Param) (k : Key) : Option StateParam :=
  ps.findSome? fun
    | .stateValue s => if Key.of s = k then some s else none
    | _ => none

/-- The first state value of a key that a diff wraps. -/
def firstWrappedState? (ps : List Param) (k : Key) : Option StateParam :=
  ps.findSome? fun
    | .diffStateValue d => if Key.of d.underlying = k then some d.underlying else none
    | _ => none

theorem find?_filterMap_stateValue? (ps : List Param) (k : Key) :
    (ps.filterMap stateValue?).find? (fun s => Key.of s = k) = firstState? ps k := by
  rw [find?_filterMap_eq_findSome?, firstState?]
  congr 1
  funext p
  cases p with
  | stateValue s => simp [stateValue?, Option.filter_some]
  | _ => rfl

theorem find?_map_underlying_filterMap (ps : List Param) (k : Key) :
    ((ps.filterMap diffStateValue?).map (·.underlying)).find? (fun s => Key.of s = k)
      = firstWrappedState? ps k := by
  rw [List.map_filterMap, find?_filterMap_eq_findSome?, firstWrappedState?]
  congr 1
  funext p
  cases p with
  | diffStateValue d => simp [diffStateValue?, Option.filter_some]
  | _ => rfl

end Param

namespace MethodGroups

/-- A diff finds its state value among the items exactly if the index has the key of it. -/
theorem addStateDiff_eq_insert {s : KeyedSet StateParam} (hs : s.Coherent) (d : StateDiff) :
    addStateDiff s d = (s.insert d.underlying).2 :=
  hs.ite_any_eq_insert fun _ => StateDiff.wraps_iff

/-- **Diffs count as declarations behind all others.** -/
theorem stateValues_eq_inKeyOrder (g : MethodGroups) :
    g.stateValues = inKeyOrder (g.scannedStateValues ++ g.stateDiffs.map (·.underlying)) := by
  have hrun := (KeyedSet.coherent_ofList g.scannedStateValues).foldl_eq_foldl_insert g.stateDiffs
    fun s hs d _ => addStateDiff_eq_insert hs d
  rw [stateValues, hrun, inKeyOrder, KeyedSet.ofList, KeyedSet.ofList, List.foldl_append]

/-- The state value of a key: the first that a method declares, in scan order, and if there is none,
what the first diff of that key on a delegate method wraps. -/
def stateValueOf? (g : MethodGroups) (k : Key) : Option StateParam :=
  (Param.firstState? g.params k).or (Param.firstWrappedState? g.delegateParams k)

/-- **State values are reconciled.** Their keys rise, and they are the keys of the state values that
methods declare together with those of the state values that diffs on delegate methods wrap. On the
list stands of each key the first one declared, or else the first one wrapped, and nothing else. -/
theorem stateValues_reconciled (g : MethodGroups) :
    KeysRise g.stateValues
      ∧ (∀ k, k ∈ g.stateValues.map Key.of ↔
          (∃ s, Param.stateValue s ∈ g.params ∧ Key.of s = k)
            ∨ ∃ d, Param.diffStateValue d ∈ g.delegateParams ∧ Key.of d.underlying = k)
      ∧ ∀ s, s ∈ g.stateValues ↔ g.stateValueOf? (Key.of s) = some s := by
  rw [stateValues_eq_inKeyOrder]
  refine ⟨keysRise_inKeyOrder _, fun k => ?_, fun s => ?_⟩
  · have hdeclared : k ∈ g.scannedStateValues.map Key.of ↔ k ∈ keysOf .stateValue g.params :=
      Param.projects_stateValue?.mem_map_key_filterMap_iff g.params k
    have hwrapped : k ∈ (g.stateDiffs.map (·.underlying)).map Key.of ↔
        ∃ d, Param.diffStateValue d ∈ g.delegateParams ∧ Key.of d.underlying = k := by
      rw [List.map_map, List.mem_map]
      refine exists_congr fun d => and_congr_left' ?_
      exact Param.projects_diffStateValue?.mem_filterMap_iff g.delegateParams d
    rw [mem_map_key_inKeyOrder_iff, List.map_append, List.mem_append, hdeclared, hwrapped]
    rfl
  · rw [mem_inKeyOrder_iff, List.find?_append, scannedStateValues, stateDiffs, stateValueOf?,
      Param.find?_filterMap_stateValue?, Param.find?_map_underlying_filterMap]

/-- The diffs come first in the scan, but what an event method declares goes before what they
wrap. -/
example :
    let count (canUpdateLazily : Bool) : StateParam := ⟨"count", ⟨"int"⟩, canUpdateLazily⟩
    let isOpen : StateParam := ⟨"open", ⟨"boolean"⟩, true⟩
    let wrapped := [.diffStateValue (.ofState isOpen), .diffStateValue (.ofState (count false))]
    let g : MethodGroups :=
      { delegate := [{ hook := .onMount, name := "mount", params := wrapped }]
        event := [.handling { name := ⟨"TapEvent"⟩ } "onTap" [.stateValue (count true)]] }
    g.stateValues = [count true, isOpen] := by
  decide +kernel

end MethodGroups

/-! ## Values that are nothing but their keys -/

section

variable {α : Type} [Declared α] {as bs : List α} {keys : Set Key}

/-- The list has one declaration of each of these keys, in key order. -/
structure ListsKeys (as : List α) (keys : Set Key) : Prop where
  keysRise : KeysRise as
  mem_iff : ∀ k, k ∈ as.map Key.of ↔ k ∈ keys

theorem Projects.listsKeys_inKeyOrder {f : Param → Option α} {make : α → Param}
    (h : Projects f make) (ps : List Param) :
    ListsKeys (inKeyOrder (ps.filterMap f)) (keysOf make ps) where
  keysRise := keysRise_inKeyOrder _
  mem_iff k := (mem_map_key_inKeyOrder_iff _ k).trans (h.mem_map_key_filterMap_iff ps k)

/-- Where a key tells all of a declaration, the keys tell all of the list. -/
theorem ListsKeys.unique (hkey : Function.Injective (Key.of (α := α))) (h : ListsKeys as keys)
    (h' : ListsKeys bs keys) : as = bs := by
  refine List.map_injective_iff.2 hkey (map_key_eq_of_keysRise h.keysRise h'.keysRise fun k => ?_)
  rw [h.mem_iff, h'.mem_iff]

/-- The list of values shows a set of keys, in key order, and nothing else. -/
structure MadeOfKeys (list : MethodGroups → List α) (keys : MethodGroups → Set Key) : Prop where
  listsKeys : ∀ g, ListsKeys (list g) (keys g)
  /-- Methods whose keys are the same, in whatever order and number, have the same list. -/
  eq_iff : ∀ g g', list g = list g' ↔ keys g = keys g'

theorem MadeOfKeys.of_listsKeys {list : MethodGroups → List α} {keys : MethodGroups → Set Key}
    (hkey : Function.Injective (Key.of (α := α))) (h : ∀ g, ListsKeys (list g) (keys g)) :
    MadeOfKeys list keys where
  listsKeys := h
  eq_iff g g' := by
    constructor
    · intro heq
      ext k
      rw [← (h g).mem_iff, ← (h g').mem_iff, heq]
    · intro heq
      exact (h g).unique hkey (heq ▸ h g')

end

theorem StageInput.key_injective : Function.Injective (Key.of (α := StageInput)) :=
  Function.LeftInverse.injective (g := fun k => ⟨k.name, k.typeName⟩) fun _ => rfl

theorem TreeValue.key_injective : Function.Injective (Key.of (α := TreeValue)) :=
  Function.LeftInverse.injective (g := fun k => ⟨k.name, k.typeName⟩) fun _ => rfl

theorem RenderDiff.key_injective : Function.Injective (Key.of (α := RenderDiff)) :=
  Function.LeftInverse.injective (g := fun k => ⟨k.name, k.typeName⟩) fun _ => rfl

/-- **The lists of stage inputs, tree values and render diffs are made of keys.** Each has the keys
that are declared, on any method or, for render diffs, on delegate methods, once and in key order;
so methods that declare the same keys have the same list, in whatever order and on whichever method
they do it and however often. -/
theorem MethodGroups.valueLists_madeOfKeys :
    MadeOfKeys treeValues (fun g => keysOf .treeValue g.params)
      ∧ MadeOfKeys stageInputs (fun g => keysOf .interStageInput g.params)
      ∧ MadeOfKeys renderDiffs (fun g => keysOf .renderDataDiff g.delegateParams) := by
  refine ⟨.of_listsKeys TreeValue.key_injective fun g => ?_,
    .of_listsKeys StageInput.key_injective fun g => ?_,
    .of_listsKeys RenderDiff.key_injective fun g => ?_⟩
  · exact Param.projects_treeValue?.listsKeys_inKeyOrder g.params
  · exact Param.projects_interStageInput?.listsKeys_inKeyOrder g.params
  · exact Param.projects_renderDataDiff?.listsKeys_inKeyOrder g.delegateParams

end ComponentSpec
