import ComponentSpec.Json.Number

set_option autoImplicit false

/-! # Skipping a value

The value of a key that nobody knows is checked for its grammar only. The open lists and objects are
kept on a list of frames, so a skipped value may nest to any depth, and the bound on the number of
steps is the length of the input: every step takes a symbol. -/

namespace ComponentSpec.Json.Reader

/-- A list or an object that is open. -/
inductive Frame where
  | list
  | object

namespace Frame

/-- The closing bracket. -/
def close : Frame → Symbol
  | .list => .char ']'
  | .object => .char '\x7d'

/-- What the end of the input interrupts inside the frame. -/
def atEnd : Frame → Fault
  | .list => .endOfInput .list
  | .object => .endOfInput .object

/-- The fault of an item followed by neither a comma nor the closing bracket. -/
def atItemEnd : Frame → Fault
  | .list => .expectedListEnd
  | .object => .expectedObjectEnd

/-- The input at the value of the next item: an object has a key and a colon before it. -/
def itemValue (frame : Frame) (s : List Symbol) : Except Fault (List Symbol) :=
  match frame with
  | .list => .ok s
  | .object =>
    match skipBlanks s with
    | [] => .error (.endOfInput .object)
    | .char '"' :: rest => do colon (← skipString 0 rest)
    | _ => .error .keyNotString

end Frame

/-- The input behind a value that is neither list nor object. -/
def skipScalar (s : List Symbol) : Except Fault (List Symbol) :=
  match s with
  | .char 'n' :: rest => literal "ull".toList rest
  | .char 't' :: rest => literal "rue".toList rest
  | .char 'f' :: rest => literal "alse".toList rest
  | .char '"' :: rest => skipString 0 rest
  | .char '-' :: rest => skipNumber rest
  | c :: _ => if (digitOf? c).isSome then skipNumber s else .error .expectedValue
  | [] => .error (.endOfInput .value)

mutual

/-- The input behind a value and everything that closes the open frames. -/
def skipOpen : (fuel : Nat) → List Frame → List Symbol → Except Fault (List Symbol)
  | 0, _, _ => .error (.endOfInput .value)
  | fuel + 1, frames, s =>
    match skipBlanks s with
    | .char '[' :: rest => skipOpened fuel .list frames rest
    | .char '\x7b' :: rest => skipOpened fuel .object frames rest
    | s => do skipClosing fuel frames (← skipScalar s)

/-- The same from behind an opening bracket. -/
def skipOpened : (fuel : Nat) → Frame → List Frame → List Symbol → Except Fault (List Symbol)
  | 0, _, _, _ => .error (.endOfInput .value)
  | fuel + 1, frame, frames, s =>
    match skipBlanks s with
    | [] => .error frame.atEnd
    | c :: rest =>
      if c = frame.close then skipClosing fuel frames rest
      else do skipOpen fuel (frame :: frames) (← frame.itemValue (c :: rest))

/-- The same from behind a complete value. -/
def skipClosing : (fuel : Nat) → List Frame → List Symbol → Except Fault (List Symbol)
  | _, [], s => .ok s
  | 0, _ :: _, _ => .error (.endOfInput .value)
  | fuel + 1, frame :: frames, s =>
    match skipBlanks s with
    | [] => .error frame.atEnd
    | c :: rest =>
      if c = frame.close then skipClosing fuel frames rest
      else if c = .char ',' then do skipOpen fuel (frame :: frames) (← frame.itemValue rest)
      else .error frame.atItemEnd

end

/-- The input behind a value of any shape. -/
def skipValue (s : List Symbol) : Except Fault (List Symbol) :=
  skipOpen (2 * s.length + 1) [] s

end ComponentSpec.Json.Reader
