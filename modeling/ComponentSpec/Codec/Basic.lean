import ComponentSpec.Json.Print
import ComponentSpec.Json.Read

set_option autoImplicit false

/-! # Codecs

A codec says how the values of a type are written as JSON and how they are read: from the running
text, where the first fault in reading order counts, and from a value that has been read before
its type was known. Codecs of structures are put together from those of their fields. -/

namespace ComponentSpec

open Json (Fault Found Symbol Wanted)
open Json.Reader (Parsed skipBlanks)

/-- Writing and reading the values of a type. -/
structure Codec (α : Type) where
  /-- The JSON form of a value. -/
  write : α → Json
  /-- A value at the start of the input, inside which `depth` lists and objects may be open. -/
  read : (depth : Nat) → List Symbol → Except Fault (Parsed α)
  /-- A value from its JSON form. -/
  check : Json → Except Fault α

namespace Codec

/-! ## Scalars -/

/-- A codec for scalars: its reading is to read the scalar and check it. -/
def scalar {α : Type} (write : α → Json) (check : Json → Except Fault α) : Codec α where
  write := write
  read _ s := do
    let (v, s) ← Json.Reader.head s
    .ok (← check v, s)
  check := check

/-- Texts. -/
def text : Codec String :=
  scalar .string fun
    | .string s => .ok s
    | v => .error (.wrongType (.of v) .string)

/-- Truth values. -/
def flag : Codec Bool :=
  scalar .bool fun
    | .bool b => .ok b
    | v => .error (.wrongType (.of v) .boolean)

/-- Unsigned integers of 32 bits. -/
def word : Codec UInt32 :=
  scalar (fun n => .integer n.toNat) fun
    | .integer n =>
      if 0 ≤ n ∧ n < UInt32.size then .ok n.toNat.toUInt32 else .error (.wordOverflow n)
    | v => .error (.wrongType (.of v) .word)

/-- The one value that says nothing, written `null`. -/
def unit (wanted : Wanted) : Codec Unit :=
  scalar (fun _ => .null) fun
    | .null => .ok ()
    | v => .error (.wrongType (.of v) wanted)

/-! ## Options, lists and other types -/

/-- A value that may be missing, written `null` then. -/
def option {α : Type} (c : Codec α) : Codec (Option α) where
  write
    | none => .null
    | some a => c.write a
  read depth s :=
    match skipBlanks s with
    | .char 'n' :: rest => do .ok (none, ← Json.Reader.literal "ull".toList rest)
    | s => do
      let (a, s) ← c.read depth s
      .ok (some a, s)
  check
    | .null => .ok none
    | v => do .ok (some (← c.check v))

/-- Lists. -/
def list {α : Type} (c : Codec α) : Codec (List α) where
  write as := .array (as.map c.write)
  read depth s :=
    match skipBlanks s with
    | .char '[' :: rest => do Json.Reader.list (c.read (← Json.Reader.enter depth)) rest
    | s => Json.Reader.refuse .sequence s
  check
    | .array vs => vs.mapM c.check
    | v => .error (.wrongType (.of v) .sequence)

/-- The values of a type that is another form of `α`. -/
def as {α β : Type} (c : Codec α) (make : α → β) (parts : β → α) : Codec β where
  write b := c.write (parts b)
  read depth s := do
    let (a, s) ← c.read depth s
    .ok (make a, s)
  check v := do .ok (make (← c.check v))

/-! ## Whole texts -/

/-- The value that the input holds, with nothing but blanks around it. -/
def decode {α : Type} (c : Codec α) (s : List Symbol) : Except Fault α :=
  Json.Reader.whole (c.read Json.Reader.maxDepth) s

/-- The value that a text holds. -/
def ofText {α : Type} (c : Codec α) (s : String) : Except Fault α :=
  c.decode (Symbol.ofText s)

/-- The value that bytes hold. -/
def ofBytes {α : Type} (c : Codec α) (bytes : List UInt8) : Except Fault α :=
  c.decode (Symbol.ofBytes bytes)

/-- The text of a value, without blanks. -/
def toText {α : Type} (c : Codec α) (a : α) : String :=
  (c.write a).toCompactString

/-- The text of a value over lines. -/
def toLines {α : Type} (c : Codec α) (a : α) : String :=
  (c.write a).toPrettyString

end Codec
end ComponentSpec
