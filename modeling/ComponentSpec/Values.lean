import ComponentSpec.Method.Groups
import ComponentSpec.Param.KeyedSet

set_option autoImplicit false

/-! # State, stage, tree and render values

What a component holds or is handed besides its props: each list has one entry of each key, in key
order. A state value that only a diff mentions counts too. -/

namespace ComponentSpec.MethodGroups

/-- The set with the state value that a diff wraps. -/
def addStateDiff (s : KeyedSet StateParam) (d : StateDiff) : KeyedSet StateParam :=
  if s.items.any d.wraps then s else (s.insert d.underlying).2

/-- The state values. -/
def stateValues (g : MethodGroups) : List StateParam :=
  (g.stateDiffs.foldl addStateDiff (.ofList g.scannedStateValues)).inKeyOrder

/-- The values that earlier methods make. -/
def stageInputs (g : MethodGroups) : List StageInput :=
  inKeyOrder g.scannedStageInputs

/-- The values handed down the component tree. -/
def treeValues (g : MethodGroups) : List TreeValue :=
  inKeyOrder g.scannedTreeValues

/-- The render diffs. -/
def renderDiffs (g : MethodGroups) : List RenderDiff :=
  inKeyOrder g.scannedRenderDiffs

end ComponentSpec.MethodGroups
