import ComponentSpec.Document.Basic
import ComponentSpec.Method.Codec

set_option autoImplicit false

/-! # The JSON form of documents

Only the qualified name of a document is required. `Document.ofText` and `Document.ofBytes` read a
document from its two kinds of source, with the same answer for a text and for its bytes. -/

namespace ComponentSpec

open Codec (flag text)

/-- The marked parameters of a method. -/
def paramsField : Field (List MarkedParam) :=
  .defaulted "params" MarkedParam.codec.list []

def DelegateEntry.codec : Codec DelegateEntry :=
  (Codec.record "DelegateMethodDoc"
    (.cons (.required "hook" Hook.codec) <| .cons (.required "name" text) <|
      .cons (.nullable "return_type" TypeName.codec) <| .cons paramsField .nil)).as
    (fun (hook, name, returnType, params, ()) => ⟨hook, name, returnType, params⟩)
    (fun e => (e.hook, e.name, e.returnType, e.params, ()))

def EventEntry.codec : Codec EventEntry :=
  (Codec.record "EventMethodDoc"
    (.cons (.required "name" text) <| .cons (.required "event" EventDeclaration.codec) <|
      .cons paramsField .nil)).as
    (fun (name, event, params, ()) => ⟨name, event, params⟩)
    (fun e => (e.name, e.event, e.params, ()))

def UpdateEntry.codec : Codec UpdateEntry :=
  (Codec.record "UpdateStateMethodDoc"
    (.cons (.required "name" text) <| .cons (.defaulted "lazy" flag false) <|
      .cons paramsField .nil)).as
    (fun (name, isLazy, params, ()) => ⟨name, isLazy, params⟩)
    (fun e => (e.name, e.isLazy, e.params, ()))

namespace Document

def codec : Codec Document :=
  (Codec.record "SpecDocument"
    (.cons (.required "qualified_name" text) <| .cons (.nullable "component_class_name" text) <|
      .cons (.nullable "component_class" TypeName.codec) <|
      .cons (.nullable "origin" SourceAnchor.codec) <|
      .cons (.nullable "delegate_methods" DelegateEntry.codec.list) <|
      .cons (.nullable "props" PropParam.codec.list) <|
      .cons (.defaulted "event_methods" EventEntry.codec.list []) <|
      .cons (.defaulted "trigger_methods" EventEntry.codec.list []) <|
      .cons (.defaulted "update_state_methods" UpdateEntry.codec.list []) <|
      .cons (.defaulted "cached_prop_names" NameCache.codec {}) <|
      .cons (.defaulted "type_variables" TypeVariable.codec.list []) <|
      .cons (.defaulted "prop_defaults" PropDefault.codec.list []) <|
      .cons (.defaulted "event_declarations" EventDeclaration.codec.list []) <|
      .cons (.defaulted "extra_builder_methods" BuilderMethod.codec.list []) <|
      .cons (.defaulted "class_annotations" text.list []) <|
      .cons (.defaulted "tags" Tag.codec.list []) <|
      .cons (.defaulted "class_javadoc" text "") <|
      .cons (.defaulted "prop_javadocs" PropDoc.codec.list []) <|
      .cons (.defaulted "is_public" flag false) <|
      .cons (.nullable "dependency_injection" InjectionHelper.codec) <|
      .cons (.defaulted "element_type" ElementKind.codec .classElement) .nil)).as
    (fun (qualifiedName, componentSimpleName, componentClass, origin, delegateMethods, props,
        eventMethods, triggerMethods, updateMethods, cache, typeVariables, propDefaults,
        eventDeclarations, builderMethods, classAnnotations, tags, classDoc, propDocs, isPublic,
        injectionHelper, elementKind, ()) =>
      ⟨qualifiedName, componentSimpleName, componentClass, origin, delegateMethods, props,
        eventMethods, triggerMethods, updateMethods, cache, typeVariables, propDefaults,
        eventDeclarations, builderMethods, classAnnotations, tags, classDoc, propDocs, isPublic,
        injectionHelper, elementKind⟩)
    (fun d =>
      (d.qualifiedName, d.componentSimpleName, d.componentClass, d.origin, d.delegateMethods,
        d.props, d.eventMethods, d.triggerMethods, d.updateMethods, d.cache, d.typeVariables,
        d.propDefaults, d.eventDeclarations, d.builderMethods, d.classAnnotations, d.tags,
        d.classDoc, d.propDocs, d.isPublic, d.injectionHelper, d.elementKind, ()))

/-- The error of a source that holds no document. -/
def unreadable (f : Json.Fault) : Error :=
  .serialization s!"parse spec document JSON: {f.message}"

/-- The document that a text holds. -/
def ofText (s : String) : Except Error Document :=
  (codec.ofText s).mapError unreadable

/-- The document that bytes hold. -/
def ofBytes (bytes : List UInt8) : Except Error Document :=
  (codec.ofBytes bytes).mapError unreadable

end Document
end ComponentSpec
