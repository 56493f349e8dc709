import ComponentSpec.CommandLine

set_option autoImplicit false

/-! # The program -/

namespace ComponentSpec

/-- The fault behind an error of the system. -/
def PathFault.ofError : IO.Error → PathFault
  | .noFileOrDirectory .. => .notFound
  | .inappropriateType .. => .isDirectory
  | e => .other (toString e)

/-- The files of the system. -/
def systemFiles : Files IO where
  read path := do
    try return .ok (← IO.FS.readBinFile path).toList
    catch e => return .error (.ofError e)
  write path text := do
    try
      IO.FS.writeFile path text
      return .ok ()
    catch e => return .error (.ofError e)

end ComponentSpec

/-- Runs the command line on the files of the system. -/
def main (args : List String) : IO UInt32 := do
  let outcome ← ComponentSpec.CommandLine.run ComponentSpec.CommandLine.Page.text
    ComponentSpec.systemFiles args
  IO.print outcome.stdout
  for line in outcome.stderr do
    IO.eprintln line
  return outcome.code
