import ComponentSpec.Param.Basic

set_option autoImplicit false

/-! # Marked parameters

A front-end hands over parameters with the markers it found on them. The set of markers decides the
category, and the parameter keeps the details that its category has a place for. -/

namespace ComponentSpec

/-- A marker of a parameter's role. -/
inductive Marker where
  | prop
  | injectProp
  | state
  | treeProp
  | interStage
  /-- The parameter holds a previous and a next value. -/
  | diff
  deriving DecidableEq

namespace Marker

/-- All markers, in the order of their declaration. -/
def all : List Marker :=
  [.prop, .injectProp, .state, .treeProp, .interStage, .diff]

def name : Marker → String
  | .prop => "prop"
  | .injectProp => "inject_prop"
  | .state => "state"
  | .treeProp => "tree_prop"
  | .interStage => "inter_stage"
  | .diff => "diff"

end Marker

/-- The category that markers stand for. A diff marker makes a diff of a prop or else of a state
and is a render diff on its own; without it the first of prop, inject prop, state, inter-stage
input and tree value counts. -/
def Category.ofMarkers (ms : List Marker) : Category :=
  if .diff ∈ ms then
    if .prop ∈ ms then .diffProp
    else if .state ∈ ms then .diffStateValue
    else .renderDataDiff
  else if .prop ∈ ms then .prop
  else if .injectProp ∈ ms then .injectProp
  else if .state ∈ ms then .stateValue
  else if .interStage ∈ ms then .interStageInput
  else if .treeProp ∈ ms then .treeValue
  else .plain

/-- A parameter with its markers. For a diff the type is that of the value it wraps. -/
structure MarkedParam where
  name : String
  typeName : TypeName
  markers : List Marker := []
  optional : Bool := false
  varArg : Option String := none
  doc : Option String := none
  canUpdateLazily : Bool := false
  annotations : List String := []
  deriving DecidableEq

namespace MarkedParam

def category (m : MarkedParam) : Category :=
  .ofMarkers m.markers

/-- The parameter as a prop. -/
def toProp (m : MarkedParam) : PropParam :=
  ⟨m.name, m.typeName, m.optional, m.varArg, m.doc, m.annotations⟩

/-- The parameter as a state value. -/
def toState (m : MarkedParam) : StateParam :=
  ⟨m.name, m.typeName, m.canUpdateLazily⟩

/-- The classified parameter. -/
def toParam (m : MarkedParam) : Param :=
  match m.category with
  | .prop => .prop m.toProp
  | .injectProp => .injectProp ⟨m.name, m.typeName, m.annotations⟩
  | .stateValue => .stateValue m.toState
  | .diffStateValue => .diffStateValue (.ofState m.toState)
  | .diffProp => .diffProp (.ofProp m.toProp)
  | .interStageInput => .interStageInput ⟨m.name, m.typeName⟩
  | .treeValue => .treeValue ⟨m.name, m.typeName⟩
  | .renderDataDiff => .renderDataDiff ⟨m.name, m.typeName⟩
  | .plain => .plain ⟨m.name, m.typeName, m.annotations⟩

theorem category_toParam (m : MarkedParam) : m.toParam.category = m.category := by
  unfold toParam
  split <;> simp_all [Param.category]

end MarkedParam
end ComponentSpec
