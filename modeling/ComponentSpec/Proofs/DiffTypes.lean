import ComponentSpec.Proofs.Codec.Tagged
import ComponentSpec.Proofs.Documents
import ComponentSpec.Document.Codec

set_option autoImplicit false

/-! # The types of diffs

A diff has a type of its own beside the declaration that it wraps, and this type is to be the `Diff`
of the wrapped one. A diff that is made of a declaration has it, and so has every diff that comes
from a document. A diff that is read from its JSON form has the type that the text gives, under
`diff_type`, whatever the text says of the wrapped declaration:
`Param.Origin.spellsType_iff_spells`. -/

namespace ComponentSpec

open Json.Reader
open Declared (typeName)

/-! ## Diffs that spell their type -/

/-- The type of a diff of a value of the type. -/
def TypeName.diff (t : TypeName) : TypeName :=
  ⟨"Diff<" ++ t.text ++ ">"⟩

theorem TypeName.wrappedIn_diffContainer (t : TypeName) : t.wrappedIn diffContainer = t.diff := by
  rw [wrappedIn, diff, diffContainer]
  rfl

/-- The type of the declaration that a diff wraps. -/
def Param.wrappedType? : Param → Option TypeName
  | .diffProp d => some d.underlying.typeName
  | .diffStateValue d => some d.underlying.typeName
  | _ => none

/-- The parameter is no diff or spells its type. -/
def Param.SpellsType (p : Param) : Prop :=
  ∀ t, p.wrappedType? = some t → typeName p = t.diff

@[simp] theorem Param.spellsType_diffProp_iff (d : PropDiff) :
    (diffProp d).SpellsType ↔ typeName d = d.underlying.typeName.diff :=
  ⟨fun h => h _ rfl, fun h _ ht => Option.some.inj ht ▸ h⟩

@[simp] theorem Param.spellsType_diffStateValue_iff (d : StateDiff) :
    (diffStateValue d).SpellsType ↔ typeName d = d.underlying.typeName.diff :=
  ⟨fun h => h _ rfl, fun h _ ht => Option.some.inj ht ▸ h⟩

theorem Param.spellsType_ofProp (p : PropParam) : (diffProp (.ofProp p)).SpellsType :=
  (spellsType_diffProp_iff _).2 p.typeName.wrappedIn_diffContainer

theorem Param.spellsType_ofState (s : StateParam) : (diffStateValue (.ofState s)).SpellsType :=
  (spellsType_diffStateValue_iff _).2 s.typeName.wrappedIn_diffContainer

theorem Param.spellsType_of_wrappedType?_eq_none {p : Param} (h : p.wrappedType? = none) :
    p.SpellsType := by
  intro t ht
  rw [h] at ht
  exact absurd ht nofun

theorem MarkedParam.spellsType_toParam (m : MarkedParam) : m.toParam.SpellsType := by
  rw [toParam]
  split
  case h_4 => exact Param.spellsType_ofState m.toState
  case h_5 => exact Param.spellsType_ofProp m.toProp
  all_goals exact Param.spellsType_of_wrappedType?_eq_none rfl

theorem spellsType_of_mem_map_toParam {ms : List MarkedParam} {p : Param}
    (h : p ∈ ms.map MarkedParam.toParam) : p.SpellsType := by
  obtain ⟨m, -, rfl⟩ := List.mem_map.1 h
  exact m.spellsType_toParam

theorem spellsType_of_mem_internalErrorHandler {p : Param} (h : p ∈ internalErrorHandler.params) :
    p.SpellsType := by
  obtain rfl | rfl : p = _ ∨ p = _ := by
    simpa [internalErrorHandler, EventMethod.handling] using h
  · exact Param.spellsType_of_wrappedType?_eq_none rfl
  · exact Param.spellsType_of_wrappedType?_eq_none rfl

/-- All diffs in the model of a document spell their type. -/
theorem Document.spellsType_of_build {d : Document} {m : Model} (h : d.build = .ok m) {p : Param}
    (hp : p ∈ m.groups.params) : p.SpellsType := by
  have hgroups : m.groups = d.toDraft.groups := Draft.groups_eq_of_build h
  rw [hgroups, MethodGroups.params, MethodGroups.delegateParams] at hp
  simp only [List.mem_append, List.mem_flatMap] at hp
  obtain ((⟨n, hn, hp⟩ | ⟨n, hn, hp⟩) | ⟨n, hn, hp⟩) | ⟨n, hn, hp⟩ := hp
  · rw [show d.toDraft.groups.delegate = _ from d.getD_delegateMethods_toDraft] at hn
    obtain ⟨e, -, rfl⟩ := List.mem_map.1 hn
    exact spellsType_of_mem_map_toParam hp
  · rw [d.eventMethods_groups_toDraft, List.mem_append] at hn
    rcases hn with hn | hn
    · obtain ⟨e, -, rfl⟩ := List.mem_map.1 hn
      exact spellsType_of_mem_map_toParam hp
    · obtain rfl := List.eq_of_mem_replicate hn
      exact spellsType_of_mem_internalErrorHandler hp
  · obtain ⟨e, -, rfl⟩ := List.mem_map.1 hn
    exact spellsType_of_mem_map_toParam hp
  · obtain ⟨e, -, rfl⟩ := List.mem_map.1 hn
    exact spellsType_of_mem_map_toParam hp

/-! ## The type that a text gives -/

/-- The fields of a diff that wraps values of `c`. -/
def diffFields {α : Type} (c : Codec α) :
    Fields (Option α × Option TypeName × Unit) (α × TypeName × Unit) :=
  .cons (.required "underlying" c) <| .cons (.required "diff_type" TypeName.codec) .nil

/-- The codec for the type of a diff, which leaves the wrapped declaration alone. -/
def diffTypeCodec (name : String) : Codec TypeName :=
  (Codec.record name (diffFields .hidden)).as (fun ((), t, ()) => t) (fun t => ((), t, ()))

theorem TypeName.bounded_codec : TypeName.codec.Bounded :=
  Codec.Bounded.text.as _ _

theorem PropParam.bounded_codec : PropParam.codec.Bounded :=
  .as (.record
    (.cons .text <| .cons TypeName.bounded_codec <| .cons .flag <| .cons (.option .text) <|
      .cons (.option .text) <| .cons (.list .text) .nil) _) _ _

theorem StateParam.bounded_codec : StateParam.codec.Bounded :=
  .as (.record (.cons .text <| .cons TypeName.bounded_codec <| .cons .flag .nil) _) _ _

/-- The type of a diff is read without the wrapped declaration. -/
theorem inStep_diffTypeCodec {α δ : Type} {c : Codec α} (hc : c.Bounded) (name : String)
    {make : α × TypeName × Unit → δ} {parts : δ → α × TypeName × Unit} {type : δ → TypeName}
    (htype : ∀ a t, type (make (a, t, ())) = t) :
    ((Codec.record name (diffFields c)).as make parts).InStep (fun d t => type d = t)
      (diffTypeCodec name) := by
  refine .as (.record (.required hc.inStep_hidden _ (.same _ .nil)) name) ?_
  rintro ⟨a, t, ⟨⟩⟩ ⟨⟨⟩, t', ⟨⟩⟩ ⟨-, rfl, -⟩
  exact htype a t

theorem PropDiff.inStep_diffTypeCodec :
    PropDiff.codec.InStep (fun d t => typeName d = t) (diffTypeCodec "DiffPropModel") :=
  ComponentSpec.inStep_diffTypeCodec PropParam.bounded_codec _ fun _ _ => rfl

theorem StateDiff.inStep_diffTypeCodec :
    StateDiff.codec.InStep (fun d t => typeName d = t) (diffTypeCodec "DiffStateParamModel") :=
  ComponentSpec.inStep_diffTypeCodec StateParam.bounded_codec _ fun _ _ => rfl

namespace Fields

variable {α β σ : Type} {key : String} {c : Codec α} {rest : Fields σ β} {a : α} {b : β}

/-- A field that may not be missing is the next item. -/
theorem checkItems_required {name : String} {total index : Nat} {vs left : List Json}
    (h : checkItems name total (.cons (.required key c) rest) index vs = .ok ((a, b), left)) :
    ∃ v vs', vs = v :: vs' ∧ c.check v = .ok a
      ∧ rest.checkItems name total (index + 1) vs' = .ok (b, left) := by
  cases vs with
  | nil => exact absurd h nofun
  | cons v vs =>
      obtain ⟨a', ha, h⟩ := exists_of_bind_eq_ok h
      obtain ⟨⟨b', left'⟩, hb, h⟩ := exists_of_bind_eq_ok h
      obtain ⟨hvalues, rfl⟩ := Prod.mk.inj (Except.ok.inj h)
      obtain ⟨rfl, rfl⟩ := Prod.mk.inj hvalues
      exact ⟨v, vs, rfl, ha, hb⟩

/-- A field that may not be missing has been found. -/
theorem settle_required {found : Option α} {founds : σ}
    (h : settle (.cons (.required key c) rest) (found, founds) = .ok (a, b)) :
    found = some a ∧ rest.settle founds = .ok b := by
  cases found with
  | none => exact absurd h nofun
  | some a' =>
      obtain ⟨b', hb, h⟩ := exists_of_bind_eq_ok h
      obtain ⟨rfl, rfl⟩ := Prod.mk.inj (Except.ok.inj h)
      exact ⟨rfl, hb⟩

end Fields

theorem TypeName.eq_string_of_check {v : Json} {t : TypeName} (h : codec.check v = .ok t) :
    v = .string t.text := by
  obtain ⟨text, htext, h⟩ := exists_of_bind_eq_ok h
  obtain rfl := Except.ok.inj h
  cases v with
  | string s => exact congrArg Json.string (Except.ok.inj htext)
  | _ => exact absurd htext nofun

section

variable {α : Type} {c : Codec α} {x x' : Option α} {y y' : Option TypeName}

/-- An entry of another key leaves the type that was found, and the entry of the type's key is the
first one and gives the type. -/
theorem type_of_checkEntry {key : String} {v : Json}
    (h : (diffFields c).checkEntry (key, v) (x, y, ()) = .ok (x', y', ())) :
    key ≠ "diff_type" ∧ y' = y
      ∨ key = "diff_type" ∧ y = none ∧ ∃ t, y' = some t ∧ v = .string t.text := by
  rw [diffFields, Fields.checkEntry] at h
  split_ifs at h with hunderlying hx
  · obtain ⟨a, -, h⟩ := exists_of_bind_eq_ok h
    obtain ⟨-, hy, -⟩ := Prod.mk.inj (Except.ok.inj h)
    refine .inl ⟨?_, rfl⟩
    exact hunderlying ▸ (by decide : "underlying" ≠ "diff_type")
  · obtain ⟨found, hrest, h⟩ := exists_of_bind_eq_ok h
    rw [Fields.checkEntry] at hrest
    obtain rfl := (Prod.mk.inj (Except.ok.inj h)).2
    split_ifs at hrest with htype hy
    · obtain ⟨t, ht, hrest⟩ := exists_of_bind_eq_ok hrest
      obtain rfl := (Prod.mk.inj (Except.ok.inj hrest)).1
      exact .inr ⟨htype, Option.not_isSome_iff_eq_none.1 hy, t, rfl, TypeName.eq_string_of_check ht⟩
    · obtain ⟨-, -, hrest⟩ := exists_of_bind_eq_ok hrest
      obtain rfl := (Prod.mk.inj (Except.ok.inj hrest)).1
      exact .inl ⟨htype, rfl⟩

/-- The type is the one that was found before, or else the one among the entries. -/
theorem type_of_foldlM_checkEntry {es : List (String × Json)} {t : TypeName}
    (h : es.foldlM (fun found e => (diffFields c).checkEntry e found) (x, y, ())
      = .ok (x', some t, ())) :
    (y.map fun t => .string t.text).or (es.lookup "diff_type") = some (.string t.text) := by
  induction es generalizing x y with
  | nil =>
      obtain ⟨-, h⟩ := Prod.mk.inj (Except.ok.inj h)
      obtain rfl := (Prod.mk.inj h).1
      rfl
  | cons e es ih =>
      obtain ⟨key, v⟩ := e
      rw [List.foldlM_cons] at h
      obtain ⟨⟨x₁, y₁, ⟨⟩⟩, hentry, hrest⟩ := exists_of_bind_eq_ok h
      have hes := ih hrest
      rw [List.lookup_cons]
      rcases type_of_checkEntry hentry with ⟨hkey, rfl⟩ | ⟨rfl, rfl, t', rfl, rfl⟩
      · have hkey : ("diff_type" == key) = false := by simpa using Ne.symm hkey
        rw [hkey]
        exact hes
      · exact hes

theorem field?_of_check_diffFields {name : String} {v : Json} {a : α} {t : TypeName}
    (h : (Codec.record name (diffFields c)).check v = .ok (a, t, ())) :
    v.field? "diff_type" 1 = some (.string t.text) := by
  cases v with
  | array vs =>
      obtain ⟨⟨parts, left⟩, hitems, h⟩ := exists_of_bind_eq_ok h
      simp only at h
      split_ifs at h with hleft
      obtain rfl := Except.ok.inj h
      obtain ⟨u, vs, rfl, -, hitems⟩ := Fields.checkItems_required hitems
      obtain ⟨w, vs, rfl, ht, -⟩ := Fields.checkItems_required hitems
      exact congrArg some (TypeName.eq_string_of_check ht)
  | object es =>
      obtain ⟨⟨x', y', ⟨⟩⟩, hfold, h⟩ := exists_of_bind_eq_ok h
      obtain ⟨-, h⟩ := Fields.settle_required h
      obtain ⟨rfl, -⟩ := Fields.settle_required h
      exact type_of_foldlM_checkEntry hfold
  | _ => exact absurd h nofun

/-- The type of a checked diff is the text under its key, or the second item of a list. -/
theorem field?_of_check_diff {δ : Type} {name : String} {make : α × TypeName × Unit → δ}
    {parts : δ → α × TypeName × Unit} {type : δ → TypeName} {v : Json} {d : δ}
    (h : ((Codec.record name (diffFields c)).as make parts).check v = .ok d)
    (htype : ∀ a t, type (make (a, t, ())) = t) :
    v.field? "diff_type" 1 = some (.string (type d).text) := by
  obtain ⟨⟨a, t, ⟨⟩⟩, hparts, h⟩ := exists_of_bind_eq_ok h
  obtain rfl := Except.ok.inj h
  rw [htype]
  exact field?_of_check_diffFields hparts

end

/-! ## Parameters -/

/-- The type of a diff stands in the value under its key, or behind the tag and the wrapped
declaration in a list. -/
def Param.TypedAsIn (p : Param) (v : Json) : Prop :=
  ∀ t, p.wrappedType? = some t → v.field? "diff_type" 2 = some (.string (typeName p).text)

theorem Param.field?_of_checkAs {c : Category} {v : Json} {p : Param} {t : TypeName}
    (h : checkAs c v = .ok p) (ht : p.wrappedType? = some t) :
    v.field? "diff_type" 1 = some (.string (typeName p).text) := by
  cases c
  case diffProp =>
    obtain ⟨d, hd, h⟩ := exists_of_bind_eq_ok h
    have htype : v.field? "diff_type" 1 = some (.string (typeName d).text) :=
      field?_of_check_diff hd fun _ _ => rfl
    obtain rfl := Except.ok.inj h
    exact htype
  case diffStateValue =>
    obtain ⟨d, hd, h⟩ := exists_of_bind_eq_ok h
    have htype : v.field? "diff_type" 1 = some (.string (typeName d).text) :=
      field?_of_check_diff hd fun _ _ => rfl
    obtain rfl := Except.ok.inj h
    exact htype
  all_goals
    obtain ⟨d, -, h⟩ := exists_of_bind_eq_ok h
    obtain rfl := Except.ok.inj h
    exact absurd ht nofun

theorem Param.typedAsIn_of_check {v : Json} {p : Param} (h : codec.check v = .ok p) :
    p.TypedAsIn v := by
  intro t ht
  obtain ⟨check, hcheck, w, hw, hfield⟩ := Codec.exists_check_of_check_tagged h
  simp only [List.map_map, List.mem_map] at hcheck
  obtain ⟨c, -, rfl⟩ := hcheck
  rw [hfield "diff_type" (by decide) 1]
  exact field?_of_checkAs hw ht

theorem Param.inStep_codec : codec.InStep TypedAsIn Json.codec := by
  refine ⟨fun hread => ?_⟩
  obtain ⟨v, hv, hcheck⟩ := Codec.value_of_read_tagged hread
  exact ⟨v, hv, typedAsIn_of_check hcheck⟩

/-- The value gives the parameter the type of a diff of what it wraps, if it wraps anything. -/
def Param.SpelledIn (p : Param) (v : Json) : Prop :=
  ∀ t, p.wrappedType? = some t → v.field? "diff_type" 2 = some (.string t.diff.text)

theorem Param.TypedAsIn.spellsType_iff {p : Param} {v : Json} (h : p.TypedAsIn v) :
    p.SpellsType ↔ p.SpelledIn v := by
  refine forall₂_congr fun t ht => ?_
  rw [h t ht, Option.some.injEq, Json.string.injEq]
  exact iff_of_eq (TypeName.mk.injEq _ _)

/-! ## Methods -/

/-- The fields of a method, with its parameters as they stand in the text. -/
def methodValuesCodec {κ ε : Type} (kind : Codec κ) (event : Codec ε) :
    Codec (κ × String × TypeName × List Json × ε × Unit) :=
  Codec.record "SpecMethodModel"
    (.cons (.required "kind" kind) <| .cons (.required "name" .text) <|
      .cons (.required "return_type" TypeName.codec) <|
      .cons (.required "params" Json.codec.list) <| .cons (.required "event" event) .nil)

theorem inStep_methodValuesCodec {κ ε μ : Type} (kind : Codec κ) (event : Codec ε)
    {make : κ × String × TypeName × List Param × ε × Unit → μ}
    {parts : μ → κ × String × TypeName × List Param × ε × Unit} {params : μ → List Param}
    (hparams : ∀ kind name type ps event, params (make (kind, name, type, ps, event, ())) = ps) :
    ((methodCodec kind event).as make parts).InStep
      (fun m values => List.Forall₂ Param.TypedAsIn (params m) values.2.2.2.1)
      (methodValuesCodec kind event) := by
  refine .as_left (.record (.same _ <| .same _ <| .same _ <|
    .required Param.inStep_codec.list _ <| .same _ .nil) _) ?_
  rintro ⟨kind, name, type, ps, event, ⟨⟩⟩ values ⟨-, -, -, hps, -⟩
  rwa [hparams]

/-- The text of a method spells the type of its parameter `p` at the index `i`. -/
def SpelledInMethod {κ ε : Type} (kind : Codec κ) (event : Codec ε) (s : List Json.Symbol) (i : Nat)
    (p : Param) : Prop :=
  ∃ values, (methodValuesCodec kind event).decode s = .ok values
    ∧ ∃ v, values.2.2.2.1[i]? = some v ∧ p.SpelledIn v

theorem spellsType_iff_spelledInMethod {κ ε μ : Type} {kind : Codec κ} {event : Codec ε}
    {c : Codec μ} {params : μ → List Param}
    (hc : c.InStep (fun m values => List.Forall₂ Param.TypedAsIn (params m) values.2.2.2.1)
      (methodValuesCodec kind event)) {s : List Json.Symbol} {m : μ} {i : Nat} {p : Param}
    (hm : c.decode s = .ok m) (hp : (params m)[i]? = some p) :
    p.SpellsType ↔ SpelledInMethod kind event s i p := by
  refine hc.iff_of_decode hm fun values hvalues => ?_
  obtain ⟨hi, rfl⟩ := List.getElem?_eq_some_iff.1 hp
  have hi' : i < values.2.2.2.1.length := hvalues.length_eq ▸ hi
  have htyped : Param.TypedAsIn (params m)[i] values.2.2.2.1[i] := hvalues.get hi hi'
  rw [List.getElem?_eq_getElem hi', htyped.spellsType_iff]
  simp only [Option.some.injEq, exists_eq_left']

/-! ## All ways to a parameter -/

/-- The ways to a parameter, each with what it begins with. From a method that is read it is the
parameter at an index. -/
inductive Param.Origin where
  | ofProp (p : PropParam)
  | ofState (s : StateParam)
  | ofMarked (m : MarkedParam)
  | ofDocument (d : Document)
  | propDiffText (s : List Json.Symbol)
  | stateDiffText (s : List Json.Symbol)
  | paramText (s : List Json.Symbol)
  | delegateText (s : List Json.Symbol) (i : Nat)
  | eventText (s : List Json.Symbol) (i : Nat)
  | updateText (s : List Json.Symbol) (i : Nat)

namespace Param.Origin

/-- The origin gives the parameter. -/
def Gives : Origin → Param → Prop
  | ofProp q, p => p = .diffProp (.ofProp q)
  | ofState q, p => p = .diffStateValue (.ofState q)
  | ofMarked m, p => p = m.toParam
  | ofDocument d, p => ∃ m, d.build = .ok m ∧ p ∈ m.groups.params
  | propDiffText s, p => ∃ d, PropDiff.codec.decode s = .ok d ∧ p = .diffProp d
  | stateDiffText s, p => ∃ d, StateDiff.codec.decode s = .ok d ∧ p = .diffStateValue d
  | paramText s, p => Param.codec.decode s = .ok p
  | delegateText s i, p => ∃ m, DelegateMethod.codec.decode s = .ok m ∧ m.params[i]? = some p
  | eventText s i, p => ∃ m, EventMethod.codec.decode s = .ok m ∧ m.params[i]? = some p
  | updateText s i, p => ∃ m, UpdateMethod.codec.decode s = .ok m ∧ m.params[i]? = some p

/-- The text gives the parameter the type of a diff of what it wraps, if it wraps anything. Origins
other than texts always do. -/
def Spells : Origin → Param → Prop
  | propDiffText s, p => ∃ t, (diffTypeCodec "DiffPropModel").decode s = .ok t
      ∧ ∀ w, p.wrappedType? = some w → t = w.diff
  | stateDiffText s, p => ∃ t, (diffTypeCodec "DiffStateParamModel").decode s = .ok t
      ∧ ∀ w, p.wrappedType? = some w → t = w.diff
  | paramText s, p => ∃ v, Json.codec.decode s = .ok v ∧ p.SpelledIn v
  | delegateText s i, p => SpelledInMethod DelegateMethod.kindCodec (Codec.unit .unit) s i p
  | eventText s i, p => SpelledInMethod EventMethod.kindCodec EventDeclaration.codec s i p
  | updateText s i, p => SpelledInMethod UpdateMethod.kindCodec (Codec.unit .unit) s i p
  | _, _ => True

/-- **A diff that is made of a declaration spells its type, and one that is read spells it if and
only if the text does.** The type of a diff that is read is the one that stands in the text under
`diff_type`, or at its place in a list. -/
theorem spellsType_iff_spells {p : Param} (o : Origin) (h : o.Gives p) :
    p.SpellsType ↔ o.Spells p := by
  cases o with
  | ofProp q =>
      obtain rfl : p = _ := h
      exact iff_true_intro (spellsType_ofProp q)
  | ofState q =>
      obtain rfl : p = _ := h
      exact iff_true_intro (spellsType_ofState q)
  | ofMarked m =>
      obtain rfl : p = _ := h
      exact iff_true_intro m.spellsType_toParam
  | ofDocument d =>
      obtain ⟨m, hm, hp⟩ := h
      exact iff_true_intro (Document.spellsType_of_build hm hp)
  | propDiffText s =>
      obtain ⟨d, hd, rfl⟩ := h
      refine PropDiff.inStep_diffTypeCodec.iff_of_decode hd ?_
      rintro t rfl
      rfl
  | stateDiffText s =>
      obtain ⟨d, hd, rfl⟩ := h
      refine StateDiff.inStep_diffTypeCodec.iff_of_decode hd ?_
      rintro t rfl
      rfl
  | paramText s =>
      have hp : Param.codec.decode s = .ok p := h
      exact Param.inStep_codec.iff_of_decode hp fun v hv => hv.spellsType_iff
  | delegateText s i =>
      obtain ⟨m, hm, hp⟩ := h
      exact spellsType_iff_spelledInMethod
        (inStep_methodValuesCodec _ _ fun _ _ _ _ _ => rfl) hm hp
  | eventText s i =>
      obtain ⟨m, hm, hp⟩ := h
      exact spellsType_iff_spelledInMethod
        (inStep_methodValuesCodec _ _ fun _ _ _ _ _ => rfl) hm hp
  | updateText s i =>
      obtain ⟨m, hm, hp⟩ := h
      exact spellsType_iff_spelledInMethod
        (inStep_methodValuesCodec _ _ fun _ _ _ _ _ => rfl) hm hp

end Param.Origin

/-! ## A diff of another type -/

/-- A diff of a prop of type `String` under the type `int`. -/
def mistypedTitle : PropDiff :=
  ⟨{ name := "title", typeName := ⟨"String"⟩ }, ⟨"int"⟩⟩

theorem not_spellsType_mistypedTitle : ¬ (Param.diffProp mistypedTitle).SpellsType := by
  rw [Param.spellsType_diffProp_iff]
  decide

/-- The text of a parameter. -/
def mistypedTitleText : String :=
  "\x7b\"category\":\"diff_prop\",\"underlying\":\x7b\"name\":\"title\",
\"type_name\":\"String\"\x7d,\"diff_type\":\"int\"\x7d"

/-- The diff is read as it stands, with a type that is no diff at all. -/
theorem read_mistypedTitle :
    Param.codec.ofText mistypedTitleText = .ok (.diffProp mistypedTitle)
      ∧ typeName (Param.diffProp mistypedTitle) = ⟨"int"⟩
      ∧ ¬ (Param.diffProp mistypedTitle).SpellsType :=
  ⟨by decide +kernel, rfl, not_spellsType_mistypedTitle⟩

/-- The text of a delegate method with this parameter, all in short form. -/
def mistypedMethodText : String :=
  "[[\"on_mount\"],\"bind\",\"void\",[[\"diff_prop\",[\"title\",\"String\"],\"int\"]],null]"

namespace Param.Origin

/-- The texts of the parameter do not spell its type, and this text of a diff of the same prop
does. -/
theorem spellsType_iff_spells_title :
    ¬ (paramText (Json.Symbol.ofText mistypedTitleText)).Spells (.diffProp mistypedTitle)
      ∧ ¬ (delegateText (Json.Symbol.ofText mistypedMethodText) 0).Spells (.diffProp mistypedTitle)
      ∧ (propDiffText (Json.Symbol.ofText "[[\"title\",\"String\"],\"Diff<String>\"]")).Spells
        (.diffProp (.ofProp mistypedTitle.underlying)) := by
  have hparam : Param.codec.ofText mistypedTitleText = .ok (.diffProp mistypedTitle) := by
    decide +kernel
  have hmethod : DelegateMethod.codec.ofText mistypedMethodText
      = .ok ⟨.onMount, "bind", ⟨"void"⟩, [.diffProp mistypedTitle]⟩ := by
    decide +kernel
  have hdiff : PropDiff.codec.ofText "[[\"title\",\"String\"],\"Diff<String>\"]"
      = .ok (.ofProp mistypedTitle.underlying) := by
    decide +kernel
  refine ⟨fun h => ?_, fun h => ?_, ?_⟩
  · exact not_spellsType_mistypedTitle ((spellsType_iff_spells (paramText _) hparam).2 h)
  · exact not_spellsType_mistypedTitle
      ((spellsType_iff_spells (delegateText _ 0) ⟨_, hmethod, rfl⟩).2 h)
  · exact (spellsType_iff_spells (propDiffText _) ⟨_, hdiff, rfl⟩).1 (spellsType_ofProp _)

end Param.Origin

end ComponentSpec
