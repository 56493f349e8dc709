import ComponentSpec.Proofs.FirstOccurrences
import ComponentSpec.Proofs.Roles
import Mathlib.Data.List.Nodup

set_option autoImplicit false

/-! # Inject props under their cached names

Inject props are merged before they take their cached names, so the raw ones have distinct keys and
the final ones need not. Two of the final ones share a key exactly if they are of one type and the
cache brings their names together (`Draft.nodup_key_injectProps_iff`): the earlier one reads its
name from the cache, and the later one reads the same name or declares it past the end of the
cache.

The raw inject props are the first of each key among those that the methods declare, and their
cached names begin behind those of the final props, however these came about
(`Draft.injectProps_in_scan_order`). -/

namespace ComponentSpec

/-! ## Keys of renamed inject props -/

namespace NameCache

variable {cache : NameCache}

/-- The cache has names up to its end and none behind. -/
theorem get?_eq_none_of_le {i j : Nat} (h : cache.get? i = none) (hij : i ≤ j) :
    cache.get? j = none := by
  rw [get?, List.getElem?_eq_none_iff] at h ⊢
  exact Nat.le_trans h hij

theorem rename_injectParam (cache : NameCache) (i : Nat) (p : InjectParam) :
    cache.rename i p = { p with name := (cache.get? i).getD p.name } :=
  cache.rename_eq_withName i p

theorem keyOf_rename_injectParam (cache : NameCache) (i : Nat) (p : InjectParam) :
    Key.of (cache.rename i p) = ⟨(cache.get? i).getD p.name, p.typeName⟩ := by
  rw [rename_injectParam]
  rfl

/-- The inject props at `i` and `j` are of one type, and the name cached for the first of them is
also the name that the second comes out with. The list stands from position `start` on. -/
def JoinsNames (cache : NameCache) (start : Nat) (ps : List InjectParam) (i j : Nat) : Prop :=
  ∃ p q name, ps[i]? = some p ∧ ps[j]? = some q ∧ p.typeName = q.typeName
    ∧ cache.get? (start + i) = some name ∧ (cache.get? (start + j)).getD q.name = name

/-- **Renaming keeps keys distinct exactly where the cache joins no names.** -/
theorem nodup_key_renameFrom_iff {start : Nat} {ps : List InjectParam}
    (hps : (ps.map Key.of).Nodup) :
    ((cache.renameFrom start ps).map Key.of).Nodup ↔
      ∀ i j, i < j → ¬ cache.JoinsNames start ps i j := by
  have hkey : ∀ i, ((cache.renameFrom start ps).map Key.of)[i]?
      = ps[i]?.map fun p => (⟨(cache.get? (start + i)).getD p.name, p.typeName⟩ : Key) := by
    intro i
    rw [List.getElem?_map, getElem?_renameFrom, Option.map_map]
    exact congrArg (ps[i]?.map ·) (funext fun p => keyOf_rename_injectParam cache (start + i) p)
  rw [List.nodup_iff_getElem?_ne_getElem?] at hps ⊢
  constructor
  · rintro hnodup i j hij ⟨p, q, name, hp, hq, htype, hcached, hname⟩
    have hj : j < ((cache.renameFrom start ps).map Key.of).length := by
      rw [List.length_map, length_renameFrom]
      exact (List.getElem?_eq_some_iff.1 hq).1
    refine hnodup i j hij hj ?_
    rw [hkey, hkey, hp, hq, Option.map_some, Option.map_some, hcached, hname, htype,
      Option.getD_some]
  · intro hnone i j hij hj heq
    rw [List.length_map, length_renameFrom] at hj
    have hp : ps[i]? = some ps[i] := List.getElem?_eq_getElem (Nat.lt_trans hij hj)
    have hq : ps[j]? = some ps[j] := List.getElem?_eq_getElem hj
    rw [hkey, hkey, hp, hq, Option.map_some, Option.map_some, Option.some.injEq,
      Key.mk.injEq] at heq
    obtain ⟨hname, htype⟩ := heq
    cases hcached : cache.get? (start + i) with
    | some name =>
        rw [hcached, Option.getD_some] at hname
        exact hnone i j hij ⟨_, _, name, hp, hq, htype, hcached, hname.symm⟩
    | none =>
        -- Neither of the two is renamed, and declared they have distinct keys.
        have hlater := get?_eq_none_of_le hcached (Nat.add_le_add_left (Nat.le_of_lt hij) start)
        rw [hcached, hlater, Option.getD_none, Option.getD_none] at hname
        refine hps i j hij (by rwa [List.length_map]) ?_
        rw [List.getElem?_map, List.getElem?_map, hp, hq, Option.map_some, Option.map_some]
        exact congrArg some (congrArg₂ Key.mk hname htype)

end NameCache

/-! ## The inject props of a build -/

theorem nodup_key_firstOfEach {α : Type} [Declared α] (as : List α) :
    ((firstOfEach as).map Key.of).Nodup :=
  (KeyedSet.coherent_ofList as).nodup_keys

namespace Draft

variable {d : Draft} {m : Model}

/-- **When inject props have distinct keys.** The raw inject props have, whatever the cache. The
derived final ones are these under their cached names, and they have distinct keys exactly if the
cache joins the names of no two of one type. -/
theorem nodup_key_injectProps_iff (h : d.build = .ok m) (hgiven : d.injectProps.getD [] = []) :
    (m.rawInjectProps.map Key.of).Nodup
      ∧ m.injectProps = d.cache.renameFrom m.props.length m.rawInjectProps
      ∧ ((m.injectProps.map Key.of).Nodup ↔
        ∀ i j, i < j → ¬ d.cache.JoinsNames m.props.length m.rawInjectProps i j) := by
  have hraw : (m.rawInjectProps.map Key.of).Nodup := by
    rw [rawInjectProps_eq_of_build h]
    exact nodup_key_firstOfEach _
  refine ⟨hraw, injectProps_eq_renameFrom h hgiven, ?_⟩
  rw [injectProps_eq_renameFrom h hgiven]
  exact NameCache.nodup_key_renameFrom_iff hraw

end Draft

/-- A spec with two inject props of one type. -/
def pairedClients (cache : NameCache) : Draft :=
  { qualifiedName := some "com.example.FeedSpec"
    delegateMethods := some [
      { hook := .onCreateLayout
        name := "render"
        params := [.injectProp { name := "main", typeName := ⟨"Client"⟩ },
          .injectProp { name := "backup", typeName := ⟨"Client"⟩ }] }]
    cache := cache
    anchor := some { origin := "FeedSpec.java" } }

/-- The model of `pairedClients`. -/
def pairedClientsModel (cache : NameCache) : Model :=
  (pairedClients cache).modelOf "com.example.FeedSpec" { origin := "FeedSpec.java" }

theorem build_pairedClients (cache : NameCache) :
    (pairedClients cache).build = .ok (pairedClientsModel cache) :=
  rfl

namespace Draft

/-- A cache that swaps the two names joins none. -/
theorem nodup_key_injectProps_swapped :
    (pairedClients ⟨["backup", "main"]⟩).build = .ok (pairedClientsModel ⟨["backup", "main"]⟩)
      ∧ ∀ i j, i < j → ¬ NameCache.JoinsNames ⟨["backup", "main"]⟩
        (pairedClientsModel ⟨["backup", "main"]⟩).props.length
        (pairedClientsModel ⟨["backup", "main"]⟩).rawInjectProps i j := by
  refine ⟨build_pairedClients _, ?_⟩
  have hiff := (nodup_key_injectProps_iff (build_pairedClients ⟨["backup", "main"]⟩) rfl).2.2
  exact hiff.1 (by decide +kernel)

/-- A cache of one name gives an inject prop the name that the other one declares. -/
theorem injectProps_share_key_pairedClients :
    (pairedClients ⟨["backup"]⟩).build = .ok (pairedClientsModel ⟨["backup"]⟩)
      ∧ (pairedClients ⟨["backup"]⟩).injectProps = none
      ∧ (pairedClientsModel ⟨["backup"]⟩).injectProps.map Key.of
        = [⟨"backup", ⟨"Client"⟩⟩, ⟨"backup", ⟨"Client"⟩⟩]
      ∧ ¬ ((pairedClientsModel ⟨["backup"]⟩).injectProps.map Key.of).Nodup :=
  ⟨build_pairedClients _, rfl, by decide +kernel, by decide +kernel⟩

/-! ## Inject props in scan order -/

variable {d : Draft} {m : Model}

/-- The scan finds the inject props of the written methods, if the rules declare none. -/
theorem scannedInjectProps_groups {d : Draft} (hrules : ∀ r ∈ d.rules, r.DeclaresNothing) :
    d.groups.scannedInjectProps
      = (d.groups.delegateParams ++ d.otherParams).filterMap Param.injectProp? := by
  have hlooks : Category.isDeclaration .injectProp = true := rfl
  rw [MethodGroups.scannedInjectProps, ← Param.picks_injectProp?.filterMap_filter hlooks,
    ← Param.picks_injectProp?.filterMap_filter hlooks (d.groups.delegateParams ++ d.otherParams),
    ← declarations_groups_of_declaresNothing hrules]
  rfl

/-- **Inject props follow the scan and the props.** The raw inject props are the first occurrences
among those that the model's delegate, event, trigger and update methods declare, in this order; the
event methods are the written ones and behind them those that the rules add, so under rules that
declare nothing the written methods are all there is to look at. The derived final ones are the same
number, and the one at `i` is the raw one at `i` under the name cached `i` places behind the final
props, if there is one. The final props that are counted are those given, or else those derived
under the same cache. -/
theorem injectProps_in_scan_order (h : d.build = .ok m) (hgiven : d.injectProps.getD [] = []) :
    m.rawInjectProps = firstOccurrences
        ((m.delegateMethods.flatMap (·.params) ++ m.eventMethods.flatMap (·.params)
          ++ m.triggerMethods.flatMap (·.params)
          ++ m.updateMethods.flatMap (·.params)).filterMap Param.injectProp?)
      ∧ m.eventMethods = d.eventMethods ++ SyntheticRule.added d.rules m.delegateMethods
      ∧ ((∀ r ∈ d.rules, r.DeclaresNothing) → m.rawInjectProps = firstOccurrences
        (((d.delegateMethods.getD []).flatMap (·.params) ++ d.eventMethods.flatMap (·.params)
          ++ d.triggerMethods.flatMap (·.params)
          ++ d.updateMethods.flatMap (·.params)).filterMap Param.injectProp?))
      ∧ m.injectProps.length = m.rawInjectProps.length
      ∧ (∀ i : Nat, m.injectProps[i]? = m.rawInjectProps[i]?.map fun p =>
          { p with name := (d.cache.names[m.props.length + i]?).getD p.name })
      ∧ (d.props.getD [] ≠ [] → m.props = d.props.getD [])
      ∧ (d.props.getD [] = [] →
        m.props = ComponentSpec.finalProps m.rawProps m.groups.propDiffs d.cache) := by
  have hrename := injectProps_eq_renameFrom h hgiven
  have hraw : m.rawInjectProps = firstOccurrences d.groups.scannedInjectProps := by
    rw [rawInjectProps_eq_of_build h, rawInjectProps, firstOfEach_eq_firstOccurrences]
  refine ⟨?_, ?_, fun hrules => ?_, ?_, fun i => ?_, fun hprops => ?_, fun hprops => ?_⟩
  · rw [hraw, ← groups_eq_of_build h]
    rfl
  · obtain ⟨_, _, -, rfl⟩ := build_eq_ok_iff.1 h
    rfl
  · rw [hraw, scannedInjectProps_groups hrules, otherParams, ← List.append_assoc,
      ← List.append_assoc]
    rfl
  · rw [hrename, NameCache.length_renameFrom]
  · rw [hrename, NameCache.getElem?_renameFrom]
    exact congrArg (m.rawInjectProps[i]?.map ·)
      (funext fun p => NameCache.rename_injectParam d.cache (m.props.length + i) p)
  · rw [props_eq_of_build h]
    exact orDerived_of_some_given hprops _
  · rw [props_eq_of_build h, rawProps_eq_of_build h, groups_eq_of_build h]
    exact orDerived_of_none_given hprops _

/-- A rule whose method takes an inject prop. -/
def clockRule : SyntheticRule where
  name := "clock"
  applies _ := true
  method := .handling { name := ⟨"TickEvent"⟩ } "onTick"
    [.injectProp { name := "timer", typeName := ⟨"Timer"⟩ },
      .injectProp { name := "clock", typeName := ⟨"Clock"⟩ }]

/-- A spec with two given props, and inject props on an event, a synthetic and an update method. -/
def sharedClients : Draft :=
  { qualifiedName := some "com.example.FeedSpec"
    props := some [{ name := "title", typeName := ⟨"String"⟩ },
      { name := "title", typeName := ⟨"String"⟩ }]
    eventMethods := [.handling { name := ⟨"TapEvent"⟩ } "onTap"
      [.injectProp { name := "api", typeName := ⟨"Api"⟩, annotations := ["@Main"] },
        .injectProp { name := "clock", typeName := ⟨"Clock"⟩ }]]
    updateMethods := [
      { name := "refresh"
        params := [.injectProp { name := "api", typeName := ⟨"Api"⟩ },
          .injectProp { name := "api", typeName := ⟨"Client"⟩ }] }]
    cache := ⟨["title", "title", "server", "clock"]⟩
    anchor := some { origin := "FeedSpec.java" }
    rules := [clockRule] }

/-- The model of `sharedClients`. -/
def sharedClientsModel : Model :=
  sharedClients.modelOf "com.example.FeedSpec" { origin := "FeedSpec.java" }

/-- The names begin behind the two props, and the inject props behind the cache keep their own. -/
theorem injectProps_sharedClients :
    sharedClients.build = .ok sharedClientsModel
      ∧ sharedClientsModel.rawInjectProps.map (·.typeName)
        = [⟨"Api"⟩, ⟨"Clock"⟩, ⟨"Timer"⟩, ⟨"Client"⟩]
      ∧ sharedClientsModel.injectProps[0]?
        = some { name := "server", typeName := ⟨"Api"⟩, annotations := ["@Main"] }
      ∧ sharedClientsModel.injectProps[3]? = some { name := "api", typeName := ⟨"Client"⟩ } := by
  have hbuild : sharedClients.build = .ok sharedClientsModel := rfl
  obtain ⟨hraw, -, -, -, hat, -⟩ := injectProps_in_scan_order hbuild rfl
  refine ⟨hbuild, ?_, ?_, ?_⟩
  · rw [hraw]
    decide +kernel
  · rw [hat]
    decide +kernel
  · rw [hat]
    decide +kernel

end Draft
end ComponentSpec
