import ComponentSpec.Param.Key

set_option autoImplicit false

/-! # Parameters

The parameters of a spec's methods, sorted by their role into nine categories. A diff stands for the
previous and the next value of a prop or a state and wraps the declaration of that value. -/

namespace ComponentSpec

/-- The role of a parameter. -/
inductive Category where
  /-- A value that the caller sets. -/
  | prop
  /-- A value that comes by dependency injection. -/
  | injectProp
  /-- A value that the component owns. -/
  | stateValue
  /-- The previous and the next value of a state. -/
  | diffStateValue
  /-- The previous and the next value of a prop. -/
  | diffProp
  /-- A value that an earlier method made. -/
  | interStageInput
  /-- A value handed down the component tree. -/
  | treeValue
  /-- The previous and the current render data. -/
  | renderDataDiff
  /-- A parameter without a role. -/
  | plain
  deriving DecidableEq

namespace Category

/-- All categories, in the order of their declaration. -/
def all : List Category :=
  [.prop, .injectProp, .stateValue, .diffStateValue, .diffProp, .interStageInput, .treeValue,
    .renderDataDiff, .plain]

theorem mem_all (c : Category) : c ∈ all := by
  cases c <;> decide

def name : Category → String
  | .prop => "prop"
  | .injectProp => "inject_prop"
  | .stateValue => "state_value"
  | .diffStateValue => "diff_state_value"
  | .diffProp => "diff_prop"
  | .interStageInput => "inter_stage_input"
  | .treeValue => "tree_value"
  | .renderDataDiff => "render_data_diff"
  | .plain => "plain"

end Category

/-! ## Declarations -/

/-- A prop. -/
structure PropParam where
  name : String
  typeName : TypeName
  /-- The caller may leave it out. -/
  optional : Bool := false
  /-- The name of a single item, for props that take several. -/
  varArg : Option String := none
  doc : Option String := none
  annotations : List String := []
  deriving DecidableEq

/-- A prop that comes by dependency injection. -/
structure InjectParam where
  name : String
  typeName : TypeName
  annotations : List String := []
  deriving DecidableEq

/-- A state value. -/
structure StateParam where
  name : String
  typeName : TypeName
  /-- Updates may be put off. -/
  canUpdateLazily : Bool := false
  deriving DecidableEq

/-- A value that an earlier method made. -/
structure StageInput where
  name : String
  typeName : TypeName
  deriving DecidableEq

/-- A value handed down the component tree. -/
structure TreeValue where
  name : String
  typeName : TypeName
  deriving DecidableEq

/-- The previous and the current render data. -/
structure RenderDiff where
  name : String
  typeName : TypeName
  deriving DecidableEq

/-- A parameter without a role. -/
structure PlainParam where
  name : String
  typeName : TypeName
  annotations : List String := []
  deriving DecidableEq

instance : Declared PropParam := ⟨PropParam.name, PropParam.typeName⟩
instance : Declared InjectParam := ⟨InjectParam.name, InjectParam.typeName⟩
instance : Declared StateParam := ⟨StateParam.name, StateParam.typeName⟩
instance : Declared StageInput := ⟨StageInput.name, StageInput.typeName⟩
instance : Declared TreeValue := ⟨TreeValue.name, TreeValue.typeName⟩
instance : Declared RenderDiff := ⟨RenderDiff.name, RenderDiff.typeName⟩
instance : Declared PlainParam := ⟨PlainParam.name, PlainParam.typeName⟩

instance : Renamable PropParam := ⟨fun p n => { p with name := n }⟩
instance : Renamable InjectParam := ⟨fun p n => { p with name := n }⟩

/-! ## Diffs -/

/-- The container of diff types. -/
def diffContainer : String :=
  "Diff"

/-- A diff of a prop. -/
structure PropDiff where
  underlying : PropParam
  /-- The type of the parameter itself. -/
  diffType : TypeName
  deriving DecidableEq

/-- A diff of a state value. -/
structure StateDiff where
  underlying : StateParam
  /-- The type of the parameter itself. -/
  diffType : TypeName
  deriving DecidableEq

/-- The diff of a prop, with the type that belongs to it. -/
def PropDiff.ofProp (p : PropParam) : PropDiff :=
  ⟨p, p.typeName.wrappedIn diffContainer⟩

/-- The diff of a state value, with the type that belongs to it. -/
def StateDiff.ofState (s : StateParam) : StateDiff :=
  ⟨s, s.typeName.wrappedIn diffContainer⟩

/-- Whether `p` is the prop that the diff wraps: of the same type, and of the same name or the
name that it had in an earlier build. -/
def PropDiff.wraps (d : PropDiff) (cached : Option String) (p : PropParam) : Bool :=
  (p.name = d.underlying.name || cached = some p.name) && p.typeName = d.underlying.typeName

/-- Whether `s` is the state value that the diff wraps. -/
def StateDiff.wraps (d : StateDiff) (s : StateParam) : Bool :=
  s.name = d.underlying.name && s.typeName = d.underlying.typeName

instance : Declared PropDiff := ⟨fun d => d.underlying.name, PropDiff.diffType⟩
instance : Declared StateDiff := ⟨fun d => d.underlying.name, StateDiff.diffType⟩

/-! ## The sum -/

/-- A parameter of a method. -/
inductive Param where
  | prop (p : PropParam)
  | injectProp (p : InjectParam)
  | stateValue (p : StateParam)
  | diffStateValue (p : StateDiff)
  | diffProp (p : PropDiff)
  | interStageInput (p : StageInput)
  | treeValue (p : TreeValue)
  | renderDataDiff (p : RenderDiff)
  | plain (p : PlainParam)
  deriving DecidableEq

namespace Param

def category : Param → Category
  | .prop _ => .prop
  | .injectProp _ => .injectProp
  | .stateValue _ => .stateValue
  | .diffStateValue _ => .diffStateValue
  | .diffProp _ => .diffProp
  | .interStageInput _ => .interStageInput
  | .treeValue _ => .treeValue
  | .renderDataDiff _ => .renderDataDiff
  | .plain _ => .plain

/-- Name and type of the declaration, the diff's own type for a diff. -/
def key : Param → Key
  | .prop p => .of p
  | .injectProp p => .of p
  | .stateValue p => .of p
  | .diffStateValue p => .of p
  | .diffProp p => .of p
  | .interStageInput p => .of p
  | .treeValue p => .of p
  | .renderDataDiff p => .of p
  | .plain p => .of p

instance : Declared Param := ⟨fun p => p.key.name, fun p => p.key.typeName⟩

/-! ### The declaration of one category -/

def prop? : Param → Option PropParam
  | .prop p => some p
  | _ => none

def injectProp? : Param → Option InjectParam
  | .injectProp p => some p
  | _ => none

def stateValue? : Param → Option StateParam
  | .stateValue p => some p
  | _ => none

def diffStateValue? : Param → Option StateDiff
  | .diffStateValue p => some p
  | _ => none

def diffProp? : Param → Option PropDiff
  | .diffProp p => some p
  | _ => none

def interStageInput? : Param → Option StageInput
  | .interStageInput p => some p
  | _ => none

def treeValue? : Param → Option TreeValue
  | .treeValue p => some p
  | _ => none

def renderDataDiff? : Param → Option RenderDiff
  | .renderDataDiff p => some p
  | _ => none

end Param
end ComponentSpec
