import ComponentSpec.Codec.Record
import ComponentSpec.Codec.Tagged
import ComponentSpec.Param.Marked

set_option autoImplicit false

/-! # The JSON form of parameters

One codec for each kind of parameter, and the one for their sum, tagged with the category. -/

namespace ComponentSpec

open Codec (flag text)

def Category.codec : Codec Category :=
  Codec.names all name

def Marker.codec : Codec Marker :=
  Codec.names all name

/-! ## Declarations -/

def PropParam.codec : Codec PropParam :=
  (Codec.record "PropModel"
    (.cons (.required "name" text) <| .cons (.required "type_name" TypeName.codec) <|
      .cons (.defaulted "optional" flag false) <| .cons (.optional "var_arg" text) <|
      .cons (.optional "doc" text) <| .cons (.listed "annotations" text) .nil)).as
    (fun (name, typeName, opt, varArg, doc, notes, ()) => ⟨name, typeName, opt, varArg, doc, notes⟩)
    (fun p => (p.name, p.typeName, p.optional, p.varArg, p.doc, p.annotations, ()))

def InjectParam.codec : Codec InjectParam :=
  (Codec.record "InjectPropModel"
    (.cons (.required "name" text) <| .cons (.required "type_name" TypeName.codec) <|
      .cons (.listed "annotations" text) .nil)).as
    (fun (name, typeName, notes, ()) => ⟨name, typeName, notes⟩)
    (fun p => (p.name, p.typeName, p.annotations, ()))

def StateParam.codec : Codec StateParam :=
  (Codec.record "StateParamModel"
    (.cons (.required "name" text) <| .cons (.required "type_name" TypeName.codec) <|
      .cons (.defaulted "can_update_lazily" flag false) .nil)).as
    (fun (name, typeName, isLazy, ()) => ⟨name, typeName, isLazy⟩)
    (fun p => (p.name, p.typeName, p.canUpdateLazily, ()))

def StageInput.codec : Codec StageInput :=
  (Codec.record "InterStageInputModel"
    (.cons (.required "name" text) <| .cons (.required "type_name" TypeName.codec) .nil)).as
    (fun (name, typeName, ()) => ⟨name, typeName⟩) (fun p => (p.name, p.typeName, ()))

def TreeValue.codec : Codec TreeValue :=
  (Codec.record "TreePropModel"
    (.cons (.required "name" text) <| .cons (.required "type_name" TypeName.codec) .nil)).as
    (fun (name, typeName, ()) => ⟨name, typeName⟩) (fun p => (p.name, p.typeName, ()))

def RenderDiff.codec : Codec RenderDiff :=
  (Codec.record "RenderDataDiffModel"
    (.cons (.required "name" text) <| .cons (.required "type_name" TypeName.codec) .nil)).as
    (fun (name, typeName, ()) => ⟨name, typeName⟩) (fun p => (p.name, p.typeName, ()))

def PlainParam.codec : Codec PlainParam :=
  (Codec.record "SimpleParamModel"
    (.cons (.required "name" text) <| .cons (.required "type_name" TypeName.codec) <|
      .cons (.listed "annotations" text) .nil)).as
    (fun (name, typeName, notes, ()) => ⟨name, typeName, notes⟩)
    (fun p => (p.name, p.typeName, p.annotations, ()))

/-! ## Diffs

A diff's own type is read as it is given. -/

def PropDiff.codec : Codec PropDiff :=
  (Codec.record "DiffPropModel"
    (.cons (.required "underlying" PropParam.codec) <|
      .cons (.required "diff_type" TypeName.codec) .nil)).as
    (fun (underlying, diffType, ()) => ⟨underlying, diffType⟩)
    (fun d => (d.underlying, d.diffType, ()))

def StateDiff.codec : Codec StateDiff :=
  (Codec.record "DiffStateParamModel"
    (.cons (.required "underlying" StateParam.codec) <|
      .cons (.required "diff_type" TypeName.codec) .nil)).as
    (fun (underlying, diffType, ()) => ⟨underlying, diffType⟩)
    (fun d => (d.underlying, d.diffType, ()))

/-! ## The sum -/

namespace Param

/-- The JSON form of the declaration alone. -/
def write : Param → Json
  | .prop p => PropParam.codec.write p
  | .injectProp p => InjectParam.codec.write p
  | .stateValue p => StateParam.codec.write p
  | .diffStateValue p => StateDiff.codec.write p
  | .diffProp p => PropDiff.codec.write p
  | .interStageInput p => StageInput.codec.write p
  | .treeValue p => TreeValue.codec.write p
  | .renderDataDiff p => RenderDiff.codec.write p
  | .plain p => PlainParam.codec.write p

/-- The declaration of the given category from its JSON form. -/
def checkAs (c : Category) (v : Json) : Except Json.Fault Param :=
  match c with
  | .prop => do .ok (.prop (← PropParam.codec.check v))
  | .injectProp => do .ok (.injectProp (← InjectParam.codec.check v))
  | .stateValue => do .ok (.stateValue (← StateParam.codec.check v))
  | .diffStateValue => do .ok (.diffStateValue (← StateDiff.codec.check v))
  | .diffProp => do .ok (.diffProp (← PropDiff.codec.check v))
  | .interStageInput => do .ok (.interStageInput (← StageInput.codec.check v))
  | .treeValue => do .ok (.treeValue (← TreeValue.codec.check v))
  | .renderDataDiff => do .ok (.renderDataDiff (← RenderDiff.codec.check v))
  | .plain => do .ok (.plain (← PlainParam.codec.check v))

def codec : Codec Param :=
  Codec.tagged "category" "MethodParam" (Category.all.map fun c => (c.name, checkAs c))
    fun p => (p.category.name, p.write)

end Param

/-! ## Marked parameters -/

def MarkedParam.codec : Codec MarkedParam :=
  (Codec.record "RawParam"
    (.cons (.required "name" text) <| .cons (.required "type" TypeName.codec) <|
      .cons (.defaulted "markers" Marker.codec.list []) <|
      .cons (.defaulted "optional" flag false) <|
      .cons (.nullable "var_arg" text) <| .cons (.nullable "doc" text) <|
      .cons (.defaulted "can_update_lazily" flag false) <|
      .cons (.defaulted "annotations" text.list []) .nil)).as
    (fun (name, typeName, markers, opt, varArg, doc, isLazy, notes, ()) =>
      ⟨name, typeName, markers, opt, varArg, doc, isLazy, notes⟩)
    (fun m => (m.name, m.typeName, m.markers, m.optional, m.varArg, m.doc, m.canUpdateLazily,
      m.annotations, ()))

end ComponentSpec
