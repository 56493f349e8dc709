import ComponentSpec.Decimal.Shortest
import ComponentSpec.Json.Basic
import ComponentSpec.Text.Quoted

set_option autoImplicit false

/-! # What can be wrong with JSON input

A `Fault` is the first problem of a text in reading order: of its syntax, of the type of a value,
or of the fields of a structure. `Fault.message` words it. -/

namespace ComponentSpec.Json

/-- What was being read when the input ended. -/
inductive Place where
  | value
  | string
  | list
  | object
  deriving DecidableEq

/-- The kind of a value that stands where another one is wanted. -/
inductive Found where
  | null
  | boolean (b : Bool)
  | integer (n : Int)
  | float (bits : UInt64)
  | string (s : String)
  | sequence
  | map
  /-- A variant name without the value that has to go with it. -/
  | bareVariant
  deriving DecidableEq

/-- What a reader wants. -/
inductive Wanted where
  | string
  | boolean
  | sequence
  | word
  | unit
  | unitStruct (name : String)
  | struct (name : String)
  | variantName
  | taggedEnum (name : String)
  /-- A variant name together with its value. -/
  | holdingVariant
  deriving DecidableEq

/-- The first problem of an input. -/
inductive Fault where
  | endOfInput (place : Place)
  | expectedValue
  | expectedLiteral
  | expectedColon
  | expectedListEnd
  | expectedObjectEnd
  | keyNotString
  | trailingComma
  | trailingText
  | invalidNumber
  | numberTooLarge
  | invalidEscape
  | brokenSurrogatePair
  | loneSurrogate
  | controlCharacter
  | invalidText
  | tooDeep
  | wrongType (found : Found) (wanted : Wanted)
  | wordOverflow (n : Int)
  | missingField (key : String)
  | duplicateField (key : String)
  /-- A structure given as a list of `length` items that lacks a field without a default. -/
  | shortStruct (length : Nat) (name : String) (size : Nat)
  /-- A structure of `size` fields given as a longer list. -/
  | longStruct (length size : Nat)
  | unknownVariant (name : String) (known : List String)
  deriving DecidableEq

/-- The kind of a value. -/
def Found.of : Json → Found
  | .null => .null
  | .bool b => .boolean b
  | .integer n => .integer n
  | .float bits => .float bits
  | .string s => .string s
  | .array _ => .sequence
  | .object _ => .map

/-! ## Wording -/

/-- A name as messages show it. -/
def ticked (name : String) : String :=
  s!"`{name}`"

def Place.text : Place → String
  | .value => "a value"
  | .string => "a string"
  | .list => "a list"
  | .object => "an object"

def Found.text : Found → String
  | .null => "null"
  | .boolean b => "boolean " ++ ticked (if b then "true" else "false")
  | .integer n => "integer " ++ ticked (String.ofList (Decimal.ofInt n))
  | .float bits => "floating point " ++ ticked (String.ofList (Decimal.ofBits bits))
  | .string s => "string " ++ Text.shown s
  | .sequence => "sequence"
  | .map => "map"
  | .bareVariant => "unit variant"

def Wanted.text : Wanted → String
  | .string => "a string"
  | .boolean => "a boolean"
  | .sequence => "a sequence"
  | .word => "u32"
  | .unit => "unit"
  | .unitStruct name => s!"unit struct {name}"
  | .struct name => s!"struct {name}"
  | .variantName => "variant identifier"
  | .taggedEnum name => s!"internally tagged enum {name}"
  | .holdingVariant => "newtype variant"

/-- A number of elements. -/
def elementCount (n : Nat) : String :=
  String.ofList (Decimal.ofNat n) ++ (if n = 1 then " element" else " elements")

/-- The names that would have been accepted. -/
def oneOf : List String → String
  | [] => "there are no variants"
  | [a] => "expected " ++ ticked a
  | [a, b] => "expected " ++ ticked a ++ " or " ++ ticked b
  | names => "expected one of " ++ ", ".intercalate (names.map ticked)

/-- The text of a problem. -/
def Fault.message : Fault → String
  | .endOfInput place => s!"EOF while parsing {place.text}"
  | .expectedValue => "expected value"
  | .expectedLiteral => "expected ident"
  | .expectedColon => "expected `:`"
  | .expectedListEnd => "expected `,` or `]`"
  | .expectedObjectEnd => "expected `,` or `\x7d`"
  | .keyNotString => "key must be a string"
  | .trailingComma => "trailing comma"
  | .trailingText => "trailing characters"
  | .invalidNumber => "invalid number"
  | .numberTooLarge => "number out of range"
  | .invalidEscape => "invalid escape"
  | .brokenSurrogatePair => "unexpected end of hex escape"
  | .loneSurrogate => "lone leading surrogate in hex escape"
  | .controlCharacter => "control character (\\u0000-\\u001F) found while parsing a string"
  | .invalidText => "invalid unicode code point"
  | .tooDeep => "recursion limit exceeded"
  | .wrongType found wanted => s!"invalid type: {found.text}, expected {wanted.text}"
  | .wordOverflow n => s!"invalid value: {(Found.integer n).text}, expected {Wanted.word.text}"
  | .missingField key => s!"missing field {ticked key}"
  | .duplicateField key => s!"duplicate field {ticked key}"
  | .shortStruct length name size =>
    "invalid length " ++ String.ofList (Decimal.ofNat length)
      ++ s!", expected struct {name} with {elementCount size}"
  | .longStruct length size =>
    "invalid length " ++ String.ofList (Decimal.ofNat length)
      ++ s!", expected {elementCount size} in sequence"
  | .unknownVariant name known => s!"unknown variant {ticked name}, {oneOf known}"

end ComponentSpec.Json
