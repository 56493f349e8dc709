import ComponentSpec.Method.Basic
import ComponentSpec.Param.Codec

set_option autoImplicit false

/-! # The JSON form of methods

The methods of all groups have the same five fields. What a group has no use for is `null`. -/

namespace ComponentSpec

open Codec (flag text)

/-! ## Hooks and events -/

namespace Hook

/-- The hooks by name. -/
def variants : List (String × Payload Hook) :=
  [("on_create_layout", .none onCreateLayout),
    ("on_create_initial_state", .none onCreateInitialState), ("on_prepare", .none onPrepare),
    ("on_measure", .none onMeasure), ("on_bounds_defined", .none onBoundsDefined),
    ("on_create_mount_content", .none onCreateMountContent), ("on_mount", .none onMount),
    ("on_bind", .none onBind), ("on_unbind", .none onUnbind), ("on_unmount", .none onUnmount),
    ("should_update", .none shouldUpdate), ("on_create_transition", .none onCreateTransition),
    ("on_error", .none onError), ("other", .text other)]

/-- The name of a hook, and the text of one without special handling. -/
def spelling : Hook → Spelling
  | onCreateLayout => { name := "on_create_layout" }
  | onCreateInitialState => { name := "on_create_initial_state" }
  | onPrepare => { name := "on_prepare" }
  | onMeasure => { name := "on_measure" }
  | onBoundsDefined => { name := "on_bounds_defined" }
  | onCreateMountContent => { name := "on_create_mount_content" }
  | onMount => { name := "on_mount" }
  | onBind => { name := "on_bind" }
  | onUnbind => { name := "on_unbind" }
  | onUnmount => { name := "on_unmount" }
  | shouldUpdate => { name := "should_update" }
  | onCreateTransition => { name := "on_create_transition" }
  | onError => { name := "on_error" }
  | other text => { name := "other", held := some text }

def codec : Codec Hook :=
  Codec.choice variants spelling

end Hook

def EventField.codec : Codec EventField :=
  (Codec.record "FieldModel"
    (.cons (.required "name" text) <| .cons (.required "type_name" TypeName.codec) .nil)).as
    (fun (name, typeName, ()) => ⟨name, typeName⟩) (fun f => (f.name, f.typeName, ()))

def EventDeclaration.codec : Codec EventDeclaration :=
  (Codec.record "EventDeclarationModel"
    (.cons (.required "name" TypeName.codec) <|
      .cons (.defaulted "return_type" TypeName.codec .void) <|
      .cons (.defaulted "fields" EventField.codec.list []) .nil)).as
    (fun (name, returnType, fields, ()) => ⟨name, returnType, fields⟩)
    (fun e => (e.name, e.returnType, e.fields, ()))

/-! ## What is special to a group -/

/-- The kind of a delegate method: its hook. -/
def DelegateMethod.kindCodec : Codec Hook :=
  (Codec.record "DelegateMethod" (.cons (.required "hook" Hook.codec) .nil)).as
    (fun (hook, ()) => hook) (fun hook => (hook, ()))

/-- The kind of a method that handles an event says nothing. -/
def EventMethod.kindCodec : Codec Unit :=
  Codec.unit (.unitStruct "EventMethod")

/-- The kind of an update method: whether it may be put off. -/
def UpdateMethod.kindCodec : Codec Bool :=
  (Codec.record "UpdateStateMethod" (.cons (.defaulted "lazy" flag false) .nil)).as
    (fun (isLazy, ()) => isLazy) (fun isLazy => (isLazy, ()))

/-! ## Methods -/

/-- The fields of a method, with the codecs of its kind and of its event. -/
def methodCodec {κ ε : Type} (kind : Codec κ) (event : Codec ε) :
    Codec (κ × String × TypeName × List Param × ε × Unit) :=
  Codec.record "SpecMethodModel"
    (.cons (.required "kind" kind) <| .cons (.required "name" text) <|
      .cons (.required "return_type" TypeName.codec) <|
      .cons (.required "params" Param.codec.list) <| .cons (.required "event" event) .nil)

def DelegateMethod.codec : Codec DelegateMethod :=
  (methodCodec kindCodec (Codec.unit .unit)).as
    (fun (hook, name, returnType, params, (), ()) => ⟨hook, name, returnType, params⟩)
    (fun m => (m.hook, m.name, m.returnType, m.params, (), ()))

def EventMethod.codec : Codec EventMethod :=
  (methodCodec kindCodec EventDeclaration.codec).as
    (fun ((), name, returnType, params, event, ()) => ⟨name, returnType, params, event⟩)
    (fun m => ((), m.name, m.returnType, m.params, m.event, ()))

def UpdateMethod.codec : Codec UpdateMethod :=
  (methodCodec kindCodec (Codec.unit .unit)).as
    (fun (isLazy, name, returnType, params, (), ()) => ⟨isLazy, name, returnType, params⟩)
    (fun m => (m.isLazy, m.name, m.returnType, m.params, (), ()))

end ComponentSpec
