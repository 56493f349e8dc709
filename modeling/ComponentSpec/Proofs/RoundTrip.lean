import ComponentSpec.Document.Codec
import ComponentSpec.Proofs.Codec.Choice

set_option autoImplicit false

/-! # Every codec reads back what it writes

Each codec is lawful because the codecs of its parts are, and `codecs_roundTrip` collects what this
means for whole texts: the compact text of a value, of any type that has a codec, holds this value.
The number in a law says how many lists and objects the written values have inside each other. -/

namespace ComponentSpec

open Codec (Lawful)

/-! ## Names and metadata -/

theorem TypeName.lawful_codec (n : Nat) : TypeName.codec.Lawful n :=
  (Lawful.text n).as fun _ => rfl

theorem NameCache.lawful_codec (n : Nat) : NameCache.codec.Lawful (n + 1) :=
  (Lawful.text n).list.as fun _ => rfl

/-- The two fields that most structures begin with. -/
theorem Fields.Lawful.declared {σ α : Type} {rest : Fields σ α} {n : Nat} {key key' : String}
    (h : rest.Lawful n) :
    (Fields.cons (.required key .text) (.cons (.required key' TypeName.codec) rest)).Lawful n :=
  .cons (.required (.text n)) (.cons (.required (TypeName.lawful_codec n)) h)

theorem PropDefault.lawful_codec (n : Nat) : PropDefault.codec.Lawful (n + 1) :=
  (Lawful.record (by decide) (.declared <| .cons (.required (.text n)) .nil)).as
    fun _ => rfl

theorem BuilderMethod.lawful_codec (n : Nat) : BuilderMethod.codec.Lawful (n + 1) :=
  (Lawful.record (by decide) (.declared .nil)).as fun _ => rfl

theorem Tag.lawful_codec (n : Nat) : Tag.codec.Lawful (n + 1) :=
  (Lawful.record (by decide) (.cons (.required (TypeName.lawful_codec n)) .nil)).as
    fun _ => rfl

theorem PropDoc.lawful_codec (n : Nat) : PropDoc.codec.Lawful (n + 1) :=
  (Lawful.record (by decide)
    (.cons (.required (.text n)) <| .cons (.required (.text n)) .nil)).as fun _ => rfl

theorem TypeVariable.lawful_codec (n : Nat) : TypeVariable.codec.Lawful (n + 2) :=
  (Lawful.record (by decide)
    (.cons (.required (.text _)) <| .cons (.listed (TypeName.lawful_codec n)) .nil)).as
    fun _ => rfl

theorem SourceAnchor.lawful_codec (n : Nat) : SourceAnchor.codec.Lawful (n + 1) :=
  (Lawful.record (by decide)
    (.cons (.required (.text n)) <| .cons (.optional (.word n) fun _ => nofun) <|
      .cons (.optional (.word n) fun _ => nofun) .nil)).as fun _ => rfl

theorem InjectionHelper.lawful_codec (n : Nat) : InjectionHelper.codec.Lawful (n + 1) :=
  (Lawful.record (by decide) (.cons (.required (.text n)) .nil)).as fun _ => rfl

theorem ElementKind.lawful_codec (n : Nat) : ElementKind.codec.Lawful (n + 1) :=
  .names (fun k => by cases k <;> decide) (by decide) n

/-! ## Parameters -/

theorem Category.lawful_codec (n : Nat) : Category.codec.Lawful (n + 1) :=
  .names Category.mem_all (by decide) n

theorem Marker.lawful_codec (n : Nat) : Marker.codec.Lawful (n + 1) :=
  .names (fun m => by cases m <;> decide) (by decide) n

theorem PropParam.lawful_codec (n : Nat) : PropParam.codec.Lawful (n + 2) :=
  (Lawful.record (by decide)
    (.declared <| .cons (.defaulted (.flag _)) <| .cons (.optional (.text _) fun _ => nofun) <|
      .cons (.optional (.text _) fun _ => nofun) <| .cons (.listed (.text n)) .nil)).as
    fun _ => rfl

theorem InjectParam.lawful_codec (n : Nat) : InjectParam.codec.Lawful (n + 2) :=
  (Lawful.record (by decide) (.declared <| .cons (.listed (.text n)) .nil)).as
    fun _ => rfl

theorem StateParam.lawful_codec (n : Nat) : StateParam.codec.Lawful (n + 1) :=
  (Lawful.record (by decide) (.declared <| .cons (.defaulted (.flag n)) .nil)).as
    fun _ => rfl

theorem StageInput.lawful_codec (n : Nat) : StageInput.codec.Lawful (n + 1) :=
  (Lawful.record (by decide) (.declared .nil)).as fun _ => rfl

theorem TreeValue.lawful_codec (n : Nat) : TreeValue.codec.Lawful (n + 1) :=
  (Lawful.record (by decide) (.declared .nil)).as fun _ => rfl

theorem RenderDiff.lawful_codec (n : Nat) : RenderDiff.codec.Lawful (n + 1) :=
  (Lawful.record (by decide) (.declared .nil)).as fun _ => rfl

theorem PlainParam.lawful_codec (n : Nat) : PlainParam.codec.Lawful (n + 2) :=
  (Lawful.record (by decide) (.declared <| .cons (.listed (.text n)) .nil)).as
    fun _ => rfl

theorem PropDiff.lawful_codec (n : Nat) : PropDiff.codec.Lawful (n + 3) :=
  (Lawful.record (by decide)
    (.cons (.required (PropParam.lawful_codec n)) <|
      .cons (.required (TypeName.lawful_codec _)) .nil)).as fun _ => rfl

theorem StateDiff.lawful_codec (n : Nat) : StateDiff.codec.Lawful (n + 2) :=
  (Lawful.record (by decide)
    (.cons (.required (StateParam.lawful_codec n)) <|
      .cons (.required (TypeName.lawful_codec _)) .nil)).as fun _ => rfl

theorem Param.variant_checkAs (c : Category) :
    Codec.variant (Category.all.map fun c => (c.name, checkAs c)) c.name = .ok (checkAs c) :=
  Codec.variant_map (Category.mem_all c) (by decide) checkAs

/-- No structure of a parameter has a field named like the tag. -/
theorem Param.lawful_codec (n : Nat) : Param.codec.Lawful (n + 3) := by
  refine .tagged fun p => ?_
  cases p with
  | prop p =>
      exact .of_codec (PropParam.lawful_codec _) (.as .record) (by decide)
        (variant_checkAs .prop) p
  | injectProp p =>
      exact .of_codec (InjectParam.lawful_codec _) (.as .record) (by decide)
        (variant_checkAs .injectProp) p
  | stateValue p =>
      exact .of_codec (StateParam.lawful_codec _) (.as .record) (by decide)
        (variant_checkAs .stateValue) p
  | diffStateValue d =>
      exact .of_codec (StateDiff.lawful_codec _) (.as .record) (by decide)
        (variant_checkAs .diffStateValue) d
  | diffProp d =>
      exact .of_codec (PropDiff.lawful_codec _) (.as .record) (by decide)
        (variant_checkAs .diffProp) d
  | interStageInput p =>
      exact .of_codec (StageInput.lawful_codec _) (.as .record) (by decide)
        (variant_checkAs .interStageInput) p
  | treeValue p =>
      exact .of_codec (TreeValue.lawful_codec _) (.as .record) (by decide)
        (variant_checkAs .treeValue) p
  | renderDataDiff p =>
      exact .of_codec (RenderDiff.lawful_codec _) (.as .record) (by decide)
        (variant_checkAs .renderDataDiff) p
  | plain p =>
      exact .of_codec (PlainParam.lawful_codec _) (.as .record) (by decide)
        (variant_checkAs .plain) p

theorem MarkedParam.lawful_codec (n : Nat) : MarkedParam.codec.Lawful (n + 3) :=
  (Lawful.record (by decide)
    (.declared <| .cons (.defaulted (Marker.lawful_codec n).list) <| .cons (.defaulted (.flag _)) <|
      .cons (.nullable (.text _) fun _ => nofun) <| .cons (.nullable (.text _) fun _ => nofun) <|
      .cons (.defaulted (.flag _)) <| .cons (.defaulted (Lawful.text _).list) .nil)).as
    fun _ => rfl

/-! ## Methods -/

theorem Hook.lawful_codec (n : Nat) : Hook.codec.Lawful (n + 1) := by
  refine .choice (fun h => ?_) n
  cases h with
  | other text => exact ⟨_, rfl, rfl⟩
  | _ => rfl

theorem EventField.lawful_codec (n : Nat) : EventField.codec.Lawful (n + 1) :=
  (Lawful.record (by decide) (.declared .nil)).as fun _ => rfl

theorem EventDeclaration.lawful_codec (n : Nat) : EventDeclaration.codec.Lawful (n + 3) :=
  (Lawful.record (by decide)
    (.cons (.required (TypeName.lawful_codec _)) <|
      .cons (.defaulted (TypeName.lawful_codec _)) <|
      .cons (.defaulted (EventField.lawful_codec n).list) .nil)).as fun _ => rfl

theorem DelegateMethod.lawful_kindCodec (n : Nat) : DelegateMethod.kindCodec.Lawful (n + 2) :=
  (Lawful.record (by decide) (.cons (.required (Hook.lawful_codec n)) .nil)).as
    fun _ => rfl

theorem EventMethod.lawful_kindCodec (n : Nat) : EventMethod.kindCodec.Lawful n :=
  .unit _ n

theorem UpdateMethod.lawful_kindCodec (n : Nat) : UpdateMethod.kindCodec.Lawful (n + 1) :=
  (Lawful.record (by decide) (.cons (.defaulted (.flag n)) .nil)).as fun _ => rfl

theorem lawful_methodCodec {κ ε : Type} {kind : Codec κ} {event : Codec ε} {n : Nat}
    (hkind : kind.Lawful (n + 4)) (hevent : event.Lawful (n + 4)) :
    (methodCodec kind event).Lawful (n + 5) :=
  .record (by decide : ["kind", "name", "return_type", "params", "event"].Nodup)
    (.cons (.required hkind) <| .declared <| .cons (.required (Param.lawful_codec n).list) <|
      .cons (.required hevent) .nil)

theorem DelegateMethod.lawful_codec (n : Nat) : DelegateMethod.codec.Lawful (n + 5) :=
  (lawful_methodCodec (lawful_kindCodec _) (.unit _ _)).as fun _ => rfl

theorem EventMethod.lawful_codec (n : Nat) : EventMethod.codec.Lawful (n + 5) :=
  (lawful_methodCodec (lawful_kindCodec _) (EventDeclaration.lawful_codec _)).as fun _ => rfl

theorem UpdateMethod.lawful_codec (n : Nat) : UpdateMethod.codec.Lawful (n + 5) :=
  (lawful_methodCodec (lawful_kindCodec _) (.unit _ _)).as fun _ => rfl

/-! ## Documents -/

theorem lawful_paramsField (n : Nat) : paramsField.Lawful (n + 4) :=
  .defaulted (MarkedParam.lawful_codec n).list

theorem DelegateEntry.lawful_codec (n : Nat) : DelegateEntry.codec.Lawful (n + 5) :=
  (Lawful.record (by decide)
    (.cons (.required (Hook.lawful_codec _)) <| .cons (.required (.text _)) <|
      .cons (.nullable (TypeName.lawful_codec _) fun _ => nofun) <|
      .cons (lawful_paramsField n) .nil)).as fun _ => rfl

theorem EventEntry.lawful_codec (n : Nat) : EventEntry.codec.Lawful (n + 5) :=
  (Lawful.record (by decide)
    (.cons (.required (.text _)) <| .cons (.required (EventDeclaration.lawful_codec _)) <|
      .cons (lawful_paramsField n) .nil)).as fun _ => rfl

theorem UpdateEntry.lawful_codec (n : Nat) : UpdateEntry.codec.Lawful (n + 5) :=
  (Lawful.record (by decide)
    (.cons (.required (.text _)) <| .cons (.defaulted (.flag _)) <|
      .cons (lawful_paramsField n) .nil)).as fun _ => rfl

theorem Document.lawful_codec (n : Nat) : Document.codec.Lawful (n + 7) :=
  (Lawful.record (by decide)
    (.cons (.required (.text _)) <| .cons (.nullable (.text _) fun _ => nofun) <|
      .cons (.nullable (TypeName.lawful_codec _) fun _ => nofun) <|
      .cons (.nullable (SourceAnchor.lawful_codec _) fun _ => nofun) <|
      .cons (.nullable (DelegateEntry.lawful_codec n).list fun _ => nofun) <|
      .cons (.nullable (PropParam.lawful_codec _).list fun _ => nofun) <|
      .cons (.defaulted (EventEntry.lawful_codec n).list) <|
      .cons (.defaulted (EventEntry.lawful_codec n).list) <|
      .cons (.defaulted (UpdateEntry.lawful_codec n).list) <|
      .cons (.defaulted (NameCache.lawful_codec _)) <|
      .cons (.defaulted (TypeVariable.lawful_codec _).list) <|
      .cons (.defaulted (PropDefault.lawful_codec _).list) <|
      .cons (.defaulted (EventDeclaration.lawful_codec _).list) <|
      .cons (.defaulted (BuilderMethod.lawful_codec _).list) <|
      .cons (.defaulted (Lawful.text _).list) <| .cons (.defaulted (Tag.lawful_codec _).list) <|
      .cons (.defaulted (.text _)) <| .cons (.defaulted (PropDoc.lawful_codec _).list) <|
      .cons (.defaulted (.flag _)) <|
      .cons (.nullable (InjectionHelper.lawful_codec _) fun _ => nofun) <|
      .cons (.defaulted (ElementKind.lawful_codec _)) .nil)).as fun _ => rfl

/-! ## Whole texts -/

/-- **Every value is read back from its text.** -/
theorem codecs_roundTrip :
    TypeName.codec.RoundTrips ∧ NameCache.codec.RoundTrips
      ∧ PropDefault.codec.RoundTrips ∧ BuilderMethod.codec.RoundTrips ∧ Tag.codec.RoundTrips
      ∧ PropDoc.codec.RoundTrips ∧ TypeVariable.codec.RoundTrips ∧ SourceAnchor.codec.RoundTrips
      ∧ InjectionHelper.codec.RoundTrips ∧ ElementKind.codec.RoundTrips
      ∧ Category.codec.RoundTrips ∧ Marker.codec.RoundTrips
      ∧ PropParam.codec.RoundTrips ∧ InjectParam.codec.RoundTrips ∧ StateParam.codec.RoundTrips
      ∧ PropDiff.codec.RoundTrips ∧ StateDiff.codec.RoundTrips ∧ StageInput.codec.RoundTrips
      ∧ TreeValue.codec.RoundTrips ∧ RenderDiff.codec.RoundTrips ∧ PlainParam.codec.RoundTrips
      ∧ Param.codec.RoundTrips ∧ MarkedParam.codec.RoundTrips
      ∧ Hook.codec.RoundTrips ∧ EventField.codec.RoundTrips ∧ EventDeclaration.codec.RoundTrips
      ∧ DelegateMethod.kindCodec.RoundTrips ∧ EventMethod.kindCodec.RoundTrips
      ∧ UpdateMethod.kindCodec.RoundTrips ∧ DelegateMethod.codec.RoundTrips
      ∧ EventMethod.codec.RoundTrips ∧ UpdateMethod.codec.RoundTrips
      ∧ DelegateEntry.codec.RoundTrips ∧ EventEntry.codec.RoundTrips
      ∧ UpdateEntry.codec.RoundTrips ∧ Document.codec.RoundTrips :=
  ⟨(TypeName.lawful_codec 0).roundTrips (by decide),
    (NameCache.lawful_codec 0).roundTrips (by decide),
    (PropDefault.lawful_codec 0).roundTrips (by decide),
    (BuilderMethod.lawful_codec 0).roundTrips (by decide),
    (Tag.lawful_codec 0).roundTrips (by decide), (PropDoc.lawful_codec 0).roundTrips (by decide),
    (TypeVariable.lawful_codec 0).roundTrips (by decide),
    (SourceAnchor.lawful_codec 0).roundTrips (by decide),
    (InjectionHelper.lawful_codec 0).roundTrips (by decide),
    (ElementKind.lawful_codec 0).roundTrips (by decide),
    (Category.lawful_codec 0).roundTrips (by decide),
    (Marker.lawful_codec 0).roundTrips (by decide),
    (PropParam.lawful_codec 0).roundTrips (by decide),
    (InjectParam.lawful_codec 0).roundTrips (by decide),
    (StateParam.lawful_codec 0).roundTrips (by decide),
    (PropDiff.lawful_codec 0).roundTrips (by decide),
    (StateDiff.lawful_codec 0).roundTrips (by decide),
    (StageInput.lawful_codec 0).roundTrips (by decide),
    (TreeValue.lawful_codec 0).roundTrips (by decide),
    (RenderDiff.lawful_codec 0).roundTrips (by decide),
    (PlainParam.lawful_codec 0).roundTrips (by decide),
    (Param.lawful_codec 0).roundTrips (by decide),
    (MarkedParam.lawful_codec 0).roundTrips (by decide),
    (Hook.lawful_codec 0).roundTrips (by decide),
    (EventField.lawful_codec 0).roundTrips (by decide),
    (EventDeclaration.lawful_codec 0).roundTrips (by decide),
    (DelegateMethod.lawful_kindCodec 0).roundTrips (by decide),
    (EventMethod.lawful_kindCodec 0).roundTrips (by decide),
    (UpdateMethod.lawful_kindCodec 0).roundTrips (by decide),
    (DelegateMethod.lawful_codec 0).roundTrips (by decide),
    (EventMethod.lawful_codec 0).roundTrips (by decide),
    (UpdateMethod.lawful_codec 0).roundTrips (by decide),
    (DelegateEntry.lawful_codec 0).roundTrips (by decide),
    (EventEntry.lawful_codec 0).roundTrips (by decide),
    (UpdateEntry.lawful_codec 0).roundTrips (by decide),
    (Document.lawful_codec 0).roundTrips (by decide)⟩

end ComponentSpec
