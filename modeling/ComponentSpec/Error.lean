set_option autoImplicit false

/-! # Errors

What a caller of the library is told: a spec that cannot be built, a question that this kind of
model has no answer to, a document that cannot be read, or a failure of the system underneath. -/

namespace ComponentSpec

/-- Questions that only richer kinds of models answer. -/
inductive RicherAccessor where
  | contextClass
  | stateContainerClass
  | updateStateInterface
  | scopeMethodName
  | isStylingSupported
  | shouldCheckIdInIsEquivalentToMethod
  | hasDeepCopy
  | shouldGenerateHasState
  | validate
  | generate
  deriving DecidableEq

namespace RicherAccessor

def all : List RicherAccessor :=
  [contextClass, stateContainerClass, updateStateInterface, scopeMethodName, isStylingSupported,
    shouldCheckIdInIsEquivalentToMethod, hasDeepCopy, shouldGenerateHasState, validate, generate]

def name : RicherAccessor → String
  | contextClass => "context_class"
  | stateContainerClass => "state_container_class"
  | updateStateInterface => "update_state_interface"
  | scopeMethodName => "scope_method_name"
  | isStylingSupported => "is_styling_supported"
  | shouldCheckIdInIsEquivalentToMethod => "should_check_id_in_is_equivalent_to_method"
  | hasDeepCopy => "has_deep_copy"
  | shouldGenerateHasState => "should_generate_has_state"
  | validate => "validate"
  | generate => "generate"

end RicherAccessor

/-- An error of the library. -/
inductive Error where
  /-- The input of a build is incomplete or contradicts itself. -/
  | configuration (text : String)
  | unsupported (accessor : RicherAccessor)
  /-- A document or model cannot be read or written. -/
  | serialization (text : String)
  | other (text : String)
  deriving DecidableEq

namespace Error

def message : Error → String
  | configuration text => s!"configuration error: {text}"
  | unsupported accessor =>
    s!"unsupported accessor: `{accessor.name}` is not available on this model variant"
  | serialization text => s!"serialization error: {text}"
  | other text => text

/-- Whether the caller is to blame and not the input. -/
def isContractViolation : Error → Bool
  | unsupported _ => true
  | _ => false

end Error
end ComponentSpec
