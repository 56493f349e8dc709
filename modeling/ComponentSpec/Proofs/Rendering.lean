import ComponentSpec.Model.Codec
import ComponentSpec.Proofs.Json.Lines
import ComponentSpec.Proofs.RoundTrip

set_option autoImplicit false

/-! # The text of a model determines the model

A codec that reads back what it writes writes no two values alike. The same holds of what it writes
over lines, which has the compact text between its blanks. The program only ever writes models, but
their codec is put together from lawful ones like any other, so it would read them back, and that is
why what a model is handed on as differs as soon as any part of the model does
(`Model.dump_inj`). -/

namespace ComponentSpec

namespace Codec

variable {α : Type} {c : Codec α} {n : Nat}

theorem RoundTrips.toText_injective (h : c.RoundTrips) : Function.Injective c.toText := by
  intro a a' htext
  have hread : c.ofText (c.toText a) = .ok a' := by
    rw [htext, h a']
  exact Except.ok.inj ((h a).symm.trans hread)

/-- The lines of a value hold its compact text. -/
theorem Lawful.toText_eq_of_toLines_eq (h : c.Lawful n) {a a' : α}
    (hlines : c.toLines a = c.toLines a') : c.toText a = c.toText a' := by
  have hpretty : (c.write a).pretty 0 = (c.write a').pretty 0 := String.ofList_injective hlines
  have hcompact : (c.write a).compact = (c.write a').compact := by
    rw [← Json.tighten_pretty (h.within a), hpretty, Json.tighten_pretty (h.within a')]
  exact congrArg String.ofList hcompact

theorem Lawful.toLines_injective (h : c.Lawful n) (hn : n ≤ Json.Reader.maxDepth) :
    Function.Injective c.toLines :=
  fun _ _ hlines => (h.roundTrips hn).toText_injective (h.toText_eq_of_toLines_eq hlines)

end Codec

open Codec (Lawful)

theorem Model.lawful_codec (n : Nat) : Model.codec.Lawful (n + 7) :=
  (Lawful.record (by decide)
    (.cons (.required (.text _)) <| .cons (.required (TypeName.lawful_codec _)) <|
      .cons (.required (.text _)) <| .cons (.required (TypeName.lawful_codec _)) <|
      .cons (.nullable (TypeName.lawful_codec _) fun _ => nofun) <|
      .cons (.required (DelegateMethod.lawful_codec n).list) <|
      .cons (.required (EventMethod.lawful_codec n).list) <|
      .cons (.required (EventMethod.lawful_codec n).list) <|
      .cons (.required (UpdateMethod.lawful_codec n).list) <|
      .cons (.required (PropParam.lawful_codec _).list) <|
      .cons (.required (PropParam.lawful_codec _).list) <|
      .cons (.required (InjectParam.lawful_codec _).list) <|
      .cons (.required (InjectParam.lawful_codec _).list) <|
      .cons (.required (PropDefault.lawful_codec _).list) <|
      .cons (.required (TypeVariable.lawful_codec _).list) <|
      .cons (.required (StateParam.lawful_codec _).list) <|
      .cons (.required (StageInput.lawful_codec _).list) <|
      .cons (.required (TreeValue.lawful_codec _).list) <|
      .cons (.required (EventDeclaration.lawful_codec _).list) <|
      .cons (.required (BuilderMethod.lawful_codec _).list) <|
      .cons (.required (RenderDiff.lawful_codec _).list) <|
      .cons (.required (Lawful.text _).list) <| .cons (.required (Tag.lawful_codec _).list) <|
      .cons (.required (.text _)) <| .cons (.required (PropDoc.lawful_codec _).list) <|
      .cons (.required (.flag _)) <|
      .cons (.nullable (InjectionHelper.lawful_codec _) fun _ => nofun) <|
      .cons (.required (ElementKind.lawful_codec _)) <|
      .cons (.required (SourceAnchor.lawful_codec _)) .nil)).as fun _ => rfl

/-- **Writing a model loses nothing.** Two models with the same text, without blanks or over lines,
are the same model. -/
theorem Model.dump_inj (m m' : Model) :
    (Model.codec.toText m = Model.codec.toText m' ↔ m = m')
      ∧ (Model.codec.toLines m = Model.codec.toLines m' ↔ m = m') :=
  have hlawful := Model.lawful_codec 0
  ⟨(hlawful.roundTrips (by decide)).toText_injective.eq_iff,
    (hlawful.toLines_injective (by decide)).eq_iff⟩

end ComponentSpec
