import ComponentSpec.Method.Codec
import ComponentSpec.Model.Basic

set_option autoImplicit false

/-! # The JSON form of models

A model is written as one object with all its fields, in the order of their declaration. -/

namespace ComponentSpec.Model

open Codec (flag text)

def codec : Codec Model :=
  (Codec.record "SpecModel"
    (.cons (.required "spec_name" text) <| .cons (.required "spec_type_name" TypeName.codec) <|
      .cons (.required "component_name" text) <|
      .cons (.required "component_type_name" TypeName.codec) <|
      .cons (.nullable "component_class" TypeName.codec) <|
      .cons (.required "delegate_methods" DelegateMethod.codec.list) <|
      .cons (.required "event_methods" EventMethod.codec.list) <|
      .cons (.required "trigger_methods" EventMethod.codec.list) <|
      .cons (.required "update_state_methods" UpdateMethod.codec.list) <|
      .cons (.required "raw_props" PropParam.codec.list) <|
      .cons (.required "props" PropParam.codec.list) <|
      .cons (.required "raw_inject_props" InjectParam.codec.list) <|
      .cons (.required "inject_props" InjectParam.codec.list) <|
      .cons (.required "prop_defaults" PropDefault.codec.list) <|
      .cons (.required "type_variables" TypeVariable.codec.list) <|
      .cons (.required "state_values" StateParam.codec.list) <|
      .cons (.required "inter_stage_inputs" StageInput.codec.list) <|
      .cons (.required "tree_props" TreeValue.codec.list) <|
      .cons (.required "event_declarations" EventDeclaration.codec.list) <|
      .cons (.required "extra_builder_methods" BuilderMethod.codec.list) <|
      .cons (.required "render_data_diffs" RenderDiff.codec.list) <|
      .cons (.required "class_annotations" text.list) <|
      .cons (.required "tags" Tag.codec.list) <| .cons (.required "class_javadoc" text) <|
      .cons (.required "prop_javadocs" PropDoc.codec.list) <| .cons (.required "is_public" flag) <|
      .cons (.nullable "dependency_injection_helper" InjectionHelper.codec) <|
      .cons (.required "spec_element_type" ElementKind.codec) <|
      .cons (.required "represented_object" SourceAnchor.codec) .nil)).as
    (fun (specName, specTypeName, componentName, componentTypeName, componentClass,
        delegateMethods, eventMethods, triggerMethods, updateMethods, rawProps, props,
        rawInjectProps, injectProps, propDefaults, typeVariables, stateValues, stageInputs,
        treeValues, eventDeclarations, builderMethods, renderDiffs, classAnnotations, tags,
        classDoc, propDocs, isPublic, injectionHelper, elementKind, anchor, ()) =>
      ⟨specName, specTypeName, componentName, componentTypeName, componentClass,
        delegateMethods, eventMethods, triggerMethods, updateMethods, rawProps, props,
        rawInjectProps, injectProps, propDefaults, typeVariables, stateValues, stageInputs,
        treeValues, eventDeclarations, builderMethods, renderDiffs, classAnnotations, tags,
        classDoc, propDocs, isPublic, injectionHelper, elementKind, anchor⟩)
    (fun m =>
      (m.specName, m.specTypeName, m.componentName, m.componentTypeName, m.componentClass,
        m.delegateMethods, m.eventMethods, m.triggerMethods, m.updateMethods, m.rawProps, m.props,
        m.rawInjectProps, m.injectProps, m.propDefaults, m.typeVariables, m.stateValues,
        m.stageInputs, m.treeValues, m.eventDeclarations, m.builderMethods, m.renderDiffs,
        m.classAnnotations, m.tags, m.classDoc, m.propDocs, m.isPublic, m.injectionHelper,
        m.elementKind, m.anchor, ()))

end ComponentSpec.Model
