set_option autoImplicit false

/-! # Files

What a program does with files: it reads one whole, and it writes one whole. `Files m` gives both
in a monad `m`; a `PathFault` says why a path gave no file. -/

namespace ComponentSpec

/-- Why a path gives no file. -/
inductive PathFault where
  | notFound
  | notDirectory
  | isDirectory
  | nameTooLong
  | nulInPath
  | other (text : String)
  deriving DecidableEq

def PathFault.message : PathFault → String
  | .notFound => "No such file or directory (os error 2)"
  | .notDirectory => "Not a directory (os error 20)"
  | .isDirectory => "Is a directory (os error 21)"
  | .nameTooLong => "File name too long (os error 36)"
  | .nulInPath => "file name contained an unexpected NUL byte"
  | .other text => text

/-- Reading and writing whole files. -/
structure Files (m : Type → Type) where
  read : (path : String) → m (Except PathFault (List UInt8))
  write : (path text : String) → m (Except PathFault Unit)

end ComponentSpec
