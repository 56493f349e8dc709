import ComponentSpec.Param.Basic

set_option autoImplicit false

/-! # Methods

The methods of a spec come in four groups: delegate methods are bound to a hook of the component's
life, event and trigger methods handle a declared event, update methods change the state. -/

namespace ComponentSpec

/-- A hook of a component's life. -/
inductive Hook where
  | onCreateLayout
  | onCreateInitialState
  | onPrepare
  | onMeasure
  | onBoundsDefined
  | onCreateMountContent
  | onMount
  | onBind
  | onUnbind
  | onUnmount
  | shouldUpdate
  | onCreateTransition
  /-- The method handles errors of the component and of what it contains. -/
  | onError
  | other (name : String)
  deriving DecidableEq

/-- A field that an event carries. -/
structure EventField where
  name : String
  typeName : TypeName
  deriving DecidableEq

/-- A declared event. -/
structure EventDeclaration where
  name : TypeName
  /-- What its handlers return. -/
  returnType : TypeName := .void
  fields : List EventField := []
  deriving DecidableEq

/-- A method bound to a hook. -/
structure DelegateMethod where
  hook : Hook
  name : String
  returnType : TypeName := .void
  params : List Param
  deriving DecidableEq

/-- A method that handles an event. -/
structure EventMethod where
  name : String
  returnType : TypeName
  params : List Param
  event : EventDeclaration
  deriving DecidableEq

/-- A method that changes the state. -/
structure UpdateMethod where
  /-- The change may be put off. -/
  isLazy : Bool := false
  name : String
  returnType : TypeName := .void
  params : List Param
  deriving DecidableEq

/-- The method that handles an event returns what the event declares. -/
def EventMethod.handling (event : EventDeclaration) (name : String) (params : List Param) :
    EventMethod :=
  ⟨name, event.returnType, params, event⟩

end ComponentSpec
