import ComponentSpec.Proofs.Build
import ComponentSpec.Proofs.Values
import Mathlib.Data.List.Induction

set_option autoImplicit false

/-! # The first declaration of each key

A set is filled one declaration at a time, and which ones stay can be read off the list alone: those
whose key none before them has (`firstOccurrences`, `firstOfEach_eq_firstOccurrences`).

A build without cached names, or with cached names that are the declared ones, does nothing else to
the props. A diff looks for its prop under the declared name only, so what it wraps counts as one
more declaration behind the others (`addDiff_eq_insert`), and the final props are the first
occurrences among the raw ones (`MethodGroups.finalProps_eq_firstOccurrences`). -/

namespace ComponentSpec

/-! ## First occurrences in a list -/

section

variable {α : Type} [Declared α]

/-- The declarations whose key none before them in the list has. -/
def firstOccurrences (as : List α) : List α :=
  (as.zipIdx.filter fun e => Key.of e.1 ∉ (as.take e.2).map Key.of).map Prod.fst

theorem firstOccurrences_sublist (as : List α) : (firstOccurrences as).Sublist as := by
  have h : (firstOccurrences as).Sublist (as.zipIdx.map Prod.fst) := List.filter_sublist.map _
  rwa [List.zipIdx_map_fst] at h

/-- One more declaration is a first occurrence if its key is new, and takes none of the others
away. -/
theorem firstOccurrences_concat (as : List α) (a : α) :
    firstOccurrences (as ++ [a])
      = if Key.of a ∈ as.map Key.of then firstOccurrences as else firstOccurrences as ++ [a] := by
  have hbefore : (as.zipIdx.filter fun e => Key.of e.1 ∉ ((as ++ [a]).take e.2).map Key.of)
      = as.zipIdx.filter fun e => Key.of e.1 ∉ (as.take e.2).map Key.of := by
    refine List.filter_congr fun e he => ?_
    obtain ⟨hlt, -⟩ := List.getElem?_eq_some_iff.1 (List.mem_zipIdx_iff_getElem?.1 he)
    rw [List.take_append_of_le_length (Nat.le_of_lt hlt)]
  rw [firstOccurrences, List.zipIdx_append, List.filter_append, hbefore, List.map_append,
    ← firstOccurrences]
  by_cases hold : Key.of a ∈ as.map Key.of
  · simp [hold]
  · simp [hold]

/-- Each key has its first occurrence. -/
theorem mem_map_key_firstOccurrences_iff (as : List α) (k : Key) :
    k ∈ (firstOccurrences as).map Key.of ↔ k ∈ as.map Key.of := by
  induction as using List.reverseRecOn with
  | nil => rfl
  | append_singleton as a ih =>
      rw [firstOccurrences_concat, List.map_append, List.mem_append, ← ih, List.map_singleton,
        List.mem_singleton]
      by_cases hold : Key.of a ∈ as.map Key.of
      · -- What is left out has the key of one that stays.
        rw [if_pos hold]
        refine ⟨Or.inl, ?_⟩
        rintro (hk | rfl)
        · exact hk
        · rw [ih]
          exact hold
      · rw [if_neg hold, List.map_append, List.mem_append, List.map_singleton, List.mem_singleton]

/-- **A set has the first occurrences**, in the order of the list. -/
theorem firstOfEach_eq_firstOccurrences (as : List α) : firstOfEach as = firstOccurrences as := by
  induction as using List.reverseRecOn with
  | nil => rfl
  | append_singleton as a ih =>
      have hcontains : (KeyedSet.ofList as).contains (.of a) = true ↔ Key.of a ∈ as.map Key.of := by
        rw [(KeyedSet.coherent_ofList as).contains_iff, ← mem_map_key_firstOccurrences_iff as, ← ih]
        rfl
      rw [firstOccurrences_concat, ← ih, firstOfEach, KeyedSet.ofList_concat, KeyedSet.items_insert]
      simp only [hcontains]
      rfl

end

/-! ## Names that are kept as declared -/

namespace NameCache

/-- Where the cache has a name for a prop of the list, it is the declared one. -/
def Keeps (cache : NameCache) (ps : List PropParam) : Prop :=
  ∀ i p name, ps[i]? = some p → cache.get? i = some name → name = p.name

variable {cache : NameCache}

theorem keeps_empty (ps : List PropParam) : Keeps {} ps := by
  intro i p name _ hname
  simp [get?] at hname

theorem rename_eq_self {i : Nat} {p : PropParam}
    (h : ∀ name, cache.get? i = some name → name = p.name) : cache.rename i p = p := by
  have hname : (cache.get? i).getD p.name = p.name := by
    cases hcached : cache.get? i with
    | none => rfl
    | some name => exact h name hcached
  rw [rename_eq_withName]
  exact congrArg (Renamable.withName p) hname

theorem renameFrom_eq_self {ps : List PropParam} (h : cache.Keeps ps) :
    cache.renameFrom 0 ps = ps := by
  refine List.ext_getElem? fun i => ?_
  rw [getElem?_renameFrom, Nat.zero_add]
  cases hp : ps[i]? with
  | none => rfl
  | some p => rw [Option.map_some, rename_eq_self fun name hname => h i p name hp hname]

end NameCache

/-! ## Diffs that look for the declared name -/

section

variable {cache : NameCache} {s : KeyedSet PropParam}

/-- Under its declared name a diff finds its prop exactly if the set has the key of it. -/
theorem addDiff_eq_insert (hs : s.Coherent) {i : Nat} {d : PropDiff}
    (h : ∀ name, cache.get? i = some name → name = d.underlying.name) :
    addDiff cache s i d = (s.insert d.underlying).2 := by
  rw [addDiff, NameCache.rename_eq_self h]
  refine hs.ite_any_eq_insert fun p => ?_
  rw [Candidate.wraps_eq_mergesInto, Candidate.mergesInto_iff, keyOf_eq_iff]
  simp [Candidate.wrapped, NameCache.rename_eq_self h, eq_comm]

/-- **A run over diffs puts in what they wrap**, one after the other. -/
theorem foldl_addDiff (hs : s.Coherent) {diffs : List PropDiff} {start : Nat}
    (h : ∀ j d name, diffs[j]? = some d → cache.get? (start + j) = some name →
      name = d.underlying.name) :
    (diffs.zipIdx start).foldl (fun s (d, i) => addDiff cache s i d) s
      = (diffs.map (·.underlying)).foldl (fun s p => (s.insert p).2) s := by
  have hitems : (diffs.zipIdx start).map (PropDiff.underlying ∘ Prod.fst)
      = diffs.map (·.underlying) := by
    rw [← List.map_map, List.zipIdx_map_fst]
  rw [← hitems]
  refine hs.foldl_eq_foldl_insert _ fun s hs e he => addDiff_eq_insert hs fun name hname => ?_
  obtain ⟨hle, hd⟩ := List.mk_mem_zipIdx_iff_le_and_getElem?_sub.1 he
  exact h (e.2 - start) e.1 name hd (by rwa [Nat.add_sub_cancel' hle])

/-- Where no name is new, the final props are the first of each key. -/
theorem finalProps_eq_firstOfEach {base : List PropParam} {diffs : List PropDiff}
    (h : cache.Keeps (base ++ diffs.map (·.underlying))) :
    finalProps (base ++ diffs.map (·.underlying)) diffs cache
      = firstOfEach (base ++ diffs.map (·.underlying)) := by
  have hcount : (base ++ diffs.map (·.underlying)).length - diffs.length = base.length := by
    rw [List.length_append, List.length_map, Nat.add_sub_cancel]
  have hbase : cache.renameFrom 0 base = base := by
    refine NameCache.renameFrom_eq_self fun i p name hp hname => h i p name ?_ hname
    rw [List.getElem?_append_left (List.getElem?_eq_some_iff.1 hp).1, hp]
  have hdiffs : ∀ j d name, diffs[j]? = some d → cache.get? (base.length + j) = some name →
      name = d.underlying.name := by
    intro j d name hd hname
    refine h (base.length + j) d.underlying name ?_ hname
    rw [List.getElem?_append_right (Nat.le_add_right ..), Nat.add_sub_cancel_left,
      List.getElem?_map, hd, Option.map_some]
  rw [finalProps, hcount, List.take_left, hbase]
  simp only [foldl_addDiff (KeyedSet.coherent_ofList base) hdiffs]
  rw [firstOfEach, KeyedSet.ofList, KeyedSet.ofList, List.foldl_append]

end

/-! ## The final props of methods -/

namespace MethodGroups

/-- A raw prop is declared on some method or wrapped by a diff on a delegate method. -/
theorem mem_rawProps_iff {g : MethodGroups} {p : PropParam} :
    p ∈ g.rawProps ↔ Param.prop p ∈ g.params
      ∨ ∃ d, Param.diffProp d ∈ g.delegateParams ∧ d.underlying = p := by
  rw [rawProps, List.mem_append, List.mem_map]
  refine or_congr (Param.projects_prop?.mem_filterMap_iff g.params p) ?_
  exact exists_congr fun d =>
    and_congr_left' (Param.projects_diffProp?.mem_filterMap_iff g.delegateParams d)

/-- **Names kept as declared merge the raw props and change nothing else.** If the cache has no name
but the declared one for any raw prop, and so in particular if it is empty, the final props are the
first occurrences among the raw ones, untouched. Every declared prop is found among them by its key,
and so is what every diff on a delegate method wraps, and there are no others. -/
theorem finalProps_eq_firstOccurrences (g : MethodGroups) (cache : NameCache)
    (h : cache.Keeps g.rawProps) :
    finalProps g.rawProps g.propDiffs cache = firstOccurrences g.rawProps
      ∧ finalProps g.rawProps g.propDiffs cache = finalProps g.rawProps g.propDiffs {}
      ∧ (∀ p, Param.prop p ∈ g.params →
        ∃ q ∈ finalProps g.rawProps g.propDiffs cache, Key.of q = Key.of p)
      ∧ (∀ d, Param.diffProp d ∈ g.delegateParams →
        ∃ q ∈ finalProps g.rawProps g.propDiffs cache, Key.of q = Key.of d.underlying)
      ∧ ∀ q ∈ finalProps g.rawProps g.propDiffs cache, Param.prop q ∈ g.params
        ∨ ∃ d, Param.diffProp d ∈ g.delegateParams ∧ d.underlying = q := by
  have hfirst : ∀ c : NameCache, c.Keeps g.rawProps →
      finalProps g.rawProps g.propDiffs c = firstOccurrences g.rawProps := by
    intro c hc
    rw [← firstOfEach_eq_firstOccurrences]
    exact finalProps_eq_firstOfEach hc
  have hfound : ∀ p ∈ g.rawProps, ∃ q ∈ firstOccurrences g.rawProps, Key.of q = Key.of p := by
    intro p hp
    rw [← List.mem_map, mem_map_key_firstOccurrences_iff]
    exact List.mem_map_of_mem hp
  rw [hfirst cache h, hfirst {} (NameCache.keeps_empty _)]
  refine ⟨rfl, rfl, ?_, ?_, ?_⟩
  · intro p hp
    exact hfound p (mem_rawProps_iff.2 (Or.inl hp))
  · intro d hd
    exact hfound d.underlying (mem_rawProps_iff.2 (Or.inr ⟨d, hd, rfl⟩))
  · intro q hq
    exact mem_rawProps_iff.1 ((firstOccurrences_sublist _).mem hq)

/-- Methods that declare `title` twice and `count` under two types, once by a diff alone. -/
def repeatedProps : MethodGroups :=
  { delegate := [
      { hook := .onMount
        name := "mount"
        params := [.diffProp (.ofProp { name := "count", typeName := ⟨"int"⟩ }),
          .prop { name := "title", typeName := ⟨"String"⟩, optional := true },
          .diffProp (.ofProp { name := "title", typeName := ⟨"String"⟩ })] }]
    event := [.handling { name := ⟨"TapEvent"⟩ } "onTap"
      [.prop { name := "title", typeName := ⟨"String"⟩ },
        .prop { name := "count", typeName := ⟨"long"⟩ }]] }

/-- A cache of the declared names that ends before the last raw prop. -/
theorem finalProps_repeatedProps :
    NameCache.Keeps ⟨["title", "title", "count", "count"]⟩ repeatedProps.rawProps
      ∧ finalProps repeatedProps.rawProps repeatedProps.propDiffs
          ⟨["title", "title", "count", "count"]⟩
        = [{ name := "title", typeName := ⟨"String"⟩, optional := true },
          { name := "count", typeName := ⟨"long"⟩ }, { name := "count", typeName := ⟨"int"⟩ }] := by
  have hkeeps : NameCache.Keeps ⟨["title", "title", "count", "count"]⟩ repeatedProps.rawProps := by
    intro i p name hp hname
    rcases i with _ | _ | _ | _ | i
    · cases hp; cases hname; rfl
    · cases hp; cases hname; rfl
    · cases hp; cases hname; rfl
    · cases hp; cases hname; rfl
    · cases hname
  have hfirst : firstOccurrences repeatedProps.rawProps
      = [{ name := "title", typeName := ⟨"String"⟩, optional := true },
        { name := "count", typeName := ⟨"long"⟩ }, { name := "count", typeName := ⟨"int"⟩ }] := by
    decide +kernel
  exact ⟨hkeeps, hfirst ▸ (finalProps_eq_firstOccurrences repeatedProps _ hkeeps).1⟩

end MethodGroups
end ComponentSpec
