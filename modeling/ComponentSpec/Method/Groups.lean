import ComponentSpec.Method.Basic

set_option autoImplicit false

/-! # Scanning the methods

Parameters are scanned group by group: delegate, event, trigger and update methods, each method's
in the order of their declaration. Diffs count on delegate methods only. -/

namespace ComponentSpec

/-- The methods of a spec. -/
structure MethodGroups where
  delegate : List DelegateMethod := []
  event : List EventMethod := []
  trigger : List EventMethod := []
  update : List UpdateMethod := []

namespace MethodGroups

/-- The parameters of the delegate methods. -/
def delegateParams (g : MethodGroups) : List Param :=
  g.delegate.flatMap (·.params)

/-- All parameters in scan order. -/
def params (g : MethodGroups) : List Param :=
  g.delegateParams ++ g.event.flatMap (·.params) ++ g.trigger.flatMap (·.params)
    ++ g.update.flatMap (·.params)

/-- The parameters of one category, in scan order. -/
def paramsOf (g : MethodGroups) (c : Category) : List Param :=
  g.params.filter fun p => p.category = c

/-! ## The declarations of each category -/

def scannedProps (g : MethodGroups) : List PropParam :=
  g.params.filterMap Param.prop?

def scannedInjectProps (g : MethodGroups) : List InjectParam :=
  g.params.filterMap Param.injectProp?

def scannedStateValues (g : MethodGroups) : List StateParam :=
  g.params.filterMap Param.stateValue?

def scannedStageInputs (g : MethodGroups) : List StageInput :=
  g.params.filterMap Param.interStageInput?

def scannedTreeValues (g : MethodGroups) : List TreeValue :=
  g.params.filterMap Param.treeValue?

/-- The diffs of props on delegate methods. -/
def propDiffs (g : MethodGroups) : List PropDiff :=
  g.delegateParams.filterMap Param.diffProp?

/-- The diffs of state values on delegate methods. -/
def stateDiffs (g : MethodGroups) : List StateDiff :=
  g.delegateParams.filterMap Param.diffStateValue?

/-- The render diffs on delegate methods. -/
def scannedRenderDiffs (g : MethodGroups) : List RenderDiff :=
  g.delegateParams.filterMap Param.renderDataDiff?

/-- Props before any is merged or renamed: the declared ones, then what each diff wraps. -/
def rawProps (g : MethodGroups) : List PropParam :=
  g.scannedProps ++ g.propDiffs.map (·.underlying)

end MethodGroups
end ComponentSpec
