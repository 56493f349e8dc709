import ComponentSpec.Error
import ComponentSpec.Metadata
import ComponentSpec.Method.Groups
import ComponentSpec.NameCache

set_option autoImplicit false

/-! # Models

A model is the surface of one component spec after derivation: names, methods, props and values
merged and in order, and what the spec says besides. -/

namespace ComponentSpec

/-- The derived surface of a spec. -/
structure Model where
  /-- Simple name of the spec. -/
  specName : String
  /-- Qualified name of the spec. -/
  specTypeName : TypeName
  /-- Simple name of the component. -/
  componentName : String
  /-- Qualified name of the component. -/
  componentTypeName : TypeName
  /-- What the component extends. -/
  componentClass : Option TypeName
  delegateMethods : List DelegateMethod
  /-- The written event methods, then the synthetic ones. -/
  eventMethods : List EventMethod
  triggerMethods : List EventMethod
  updateMethods : List UpdateMethod
  rawProps : List PropParam
  props : List PropParam
  rawInjectProps : List InjectParam
  injectProps : List InjectParam
  propDefaults : List PropDefault
  typeVariables : List TypeVariable
  stateValues : List StateParam
  stageInputs : List StageInput
  treeValues : List TreeValue
  eventDeclarations : List EventDeclaration
  builderMethods : List BuilderMethod
  renderDiffs : List RenderDiff
  classAnnotations : List String
  tags : List Tag
  classDoc : String
  propDocs : List PropDoc
  isPublic : Bool
  injectionHelper : Option InjectionHelper
  elementKind : ElementKind
  /-- Where the spec was declared. -/
  anchor : SourceAnchor
  deriving DecidableEq

namespace Model

/-- The methods of the model by group. -/
def groups (m : Model) : MethodGroups :=
  ⟨m.delegateMethods, m.eventMethods, m.triggerMethods, m.updateMethods⟩

/-- Whether the component is built by dependency injection. -/
def hasInjectedDependencies (m : Model) : Bool :=
  m.injectionHelper.isSome

/-- The names to keep for the next build: of the props, then of the inject props. -/
def nameCache (m : Model) : NameCache :=
  ⟨m.props.map (·.name) ++ m.injectProps.map (·.name)⟩

/-- The answer to a question for richer kinds of models: this kind has none. -/
def ask {α : Type} (_ : Model) (accessor : RicherAccessor) : Except Error α :=
  .error (.unsupported accessor)

end Model
end ComponentSpec
