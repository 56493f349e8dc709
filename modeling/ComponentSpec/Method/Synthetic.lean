import ComponentSpec.Method.Groups

set_option autoImplicit false

/-! # Synthetic methods

A rule looks at the delegate methods and may add an event method that nobody wrote. Which rules a
build has is open; the standard one adds an internal error handler when a delegate method handles
errors (`SyntheticRule.errorHandler`). -/

namespace ComponentSpec

/-- A rule that adds an event method. -/
structure SyntheticRule where
  name : String
  /-- Whether the delegate methods carry the hook that the rule reacts to. -/
  applies : List DelegateMethod → Bool
  /-- The method that the rule adds. -/
  method : EventMethod

/-- The event method that is called with an error. -/
def internalErrorHandler : EventMethod :=
  .handling ⟨⟨"ErrorEvent"⟩, .void, [⟨"exception", ⟨"Exception"⟩⟩]⟩ "__internalOnErrorHandler"
    [.plain ⟨"c", ⟨"ComponentContext"⟩, []⟩, .plain ⟨"exception", ⟨"Exception"⟩, ["FromEvent"]⟩]

namespace SyntheticRule

/-- A delegate method that handles errors makes an internal error handler. -/
def errorHandler : SyntheticRule where
  name := "on_error_handler"
  applies delegates := delegates.any fun m => m.hook = .onError
  method := internalErrorHandler

/-- The rules of a build that names none. -/
def standard : List SyntheticRule :=
  [errorHandler]

/-- The event methods that the rules add, rule by rule. -/
def added (rules : List SyntheticRule) (delegates : List DelegateMethod) : List EventMethod :=
  (rules.filter fun r => r.applies delegates).map method

/-- The written event methods followed by those that the rules add. -/
def combine (rules : List SyntheticRule) (delegates : List DelegateMethod)
    (events : List EventMethod) : List EventMethod :=
  events ++ added rules delegates

end SyntheticRule
end ComponentSpec
