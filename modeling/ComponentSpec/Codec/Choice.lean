import ComponentSpec.Codec.Basic

set_option autoImplicit false

/-! # Choices by name

A choice is written as the name of its variant; a variant that holds a text is written as an
object with the name as its only key. Reading takes the object form for every variant, where one
that holds nothing has `null`. -/

namespace ComponentSpec

open Json (Fault Symbol)
open Json.Reader (Parsed skipBlanks)

/-- What a variant consists of besides its name. -/
inductive Payload (α : Type) where
  | none (value : α)
  | text (make : String → α)

namespace Payload

/-- The value of a name that stands alone. -/
def bare {α : Type} : Payload α → Except Fault α
  | .none a => .ok a
  | .text _ => .error (.wrongType .bareVariant .holdingVariant)

/-- The codec for what an object holds under the name. -/
def read {α : Type} (payload : Payload α) (depth : Nat) (s : List Symbol) :
    Except Fault (Parsed α) :=
  match payload with
  | .none a => do
    let (_, s) ← (Codec.unit .unit).read depth s
    .ok (a, s)
  | .text make => do
    let (held, s) ← Codec.text.read depth s
    .ok (make held, s)

/-- The value under the name when it has been read. -/
def check {α : Type} (payload : Payload α) (v : Json) : Except Fault α :=
  match payload with
  | .none a => do
    (Codec.unit .unit).check v
    .ok a
  | .text make => do .ok (make (← Codec.text.check v))

end Payload

/-- How a value is spelled: the name of its variant and the text it holds. -/
structure Spelling where
  name : String
  held : Option String := none

namespace Codec

/-- Names of variants; any other value is no name. -/
def variantName : Codec String :=
  scalar .string fun
    | .string s => .ok s
    | v => .error (.wrongType (.of v) .variantName)

/-- The entry of a name in a list of variants. -/
def variant {β : Type} (variants : List (String × β)) (name : String) : Except Fault β :=
  match variants.find? fun e => e.1 = name with
  | some (_, b) => .ok b
  | none => .error (.unknownVariant name (variants.map Prod.fst))

/-- A variant by its name at the start of the input. -/
def readVariant {β : Type} (variants : List (String × β)) (s : List Symbol) :
    Except Fault (Parsed β) := do
  let (name, s) ← variantName.read 0 s
  .ok (← variant variants name, s)

/-- A variant by the only key of an object, from behind its opening bracket. -/
def readVariantKey {β : Type} (variants : List (String × β)) (s : List Symbol) :
    Except Fault (Parsed β) :=
  match skipBlanks s with
  | [] => .error (.endOfInput .object)
  | .char '\x7d' :: _ => .error .expectedValue
  | s => do
    let (name, s) ← Json.Reader.string (← Json.Reader.nextKey true s)
    .ok (← variant variants name, s)

/-- The choice among the given variants. -/
def choice {α : Type} (variants : List (String × Payload α)) (spell : α → Spelling) : Codec α where
  write a :=
    match (spell a).held with
    | none => .string (spell a).name
    | some text => .object [((spell a).name, .string text)]
  read depth s :=
    match skipBlanks s with
    | .char '\x7b' :: rest => do
      let depth ← Json.Reader.enter depth
      let (payload, s) ← readVariantKey variants rest
      let (a, s) ← payload.read depth (← Json.Reader.colon s)
      match skipBlanks s with
      | [] => .error (.endOfInput .object)
      | .char '\x7d' :: rest => .ok (a, rest)
      | _ => .error .expectedValue
    | .char '"' :: rest => do
      let (payload, s) ← readVariant variants (.char '"' :: rest)
      .ok (← payload.bare, s)
    | [] => .error (.endOfInput .value)
    | _ => .error .expectedValue
  check
    | .string name => do (← variant variants name).bare
    | .object [(name, v)] => do (← variant variants name).check v
    | _ => .error .expectedValue

/-- The choice among names alone. -/
def names {α : Type} (values : List α) (name : α → String) : Codec α :=
  choice (values.map fun a => (name a, .none a)) fun a => { name := name a }

end Codec
end ComponentSpec
