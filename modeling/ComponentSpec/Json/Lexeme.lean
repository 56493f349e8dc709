import ComponentSpec.Json.Fault
import ComponentSpec.Json.Symbol
import ComponentSpec.Text.Hex

set_option autoImplicit false

/-! # Blanks, literals and strings

The smallest parts of JSON text. A reader takes the symbols that are left and gives a result with
the symbols after it, or the first fault. Strings come in two readings: `string` gives the text
and checks surrogates and strays, `skipString` only finds the closing quote. -/

namespace ComponentSpec.Json.Reader

/-- A result and what is left of the input behind it. -/
abbrev Parsed (α : Type) : Type :=
  α × List Symbol

/-! ## Blanks and literals -/

/-- The blanks of JSON. -/
def isBlank : Symbol → Bool
  | .char c => c = ' ' || c = '\n' || c = '\t' || c = '\r'
  | .stray _ => false

/-- The input from its first symbol that is no blank. -/
def skipBlanks (s : List Symbol) : List Symbol :=
  s.dropWhile isBlank

/-- The input after the characters of a literal. -/
def literal : List Char → List Symbol → Except Fault (List Symbol)
  | [], s => .ok s
  | _ :: _, [] => .error (.endOfInput .value)
  | c :: cs, d :: s => if d = .char c then literal cs s else .error .expectedLiteral

/-- The input after the colon of an entry. -/
def colon (s : List Symbol) : Except Fault (List Symbol) :=
  match skipBlanks s with
  | [] => .error (.endOfInput .object)
  | .char ':' :: rest => .ok rest
  | _ => .error .expectedColon

/-! ## Escapes -/

/-- The value of a hexadecimal digit. -/
def hexOf? : Symbol → Option Nat
  | .char c => Text.hexValue? c
  | .stray _ => none

/-- The code unit written by the four hexadecimal digits at the start of the input. The escape
takes four bytes before it looks at them, so a text too short for them ends too early. -/
def hexUnit (s : List Symbol) : Except Fault Nat :=
  match (s.take 4).mapM hexOf? with
  | some [a, b, c, d] => .ok (((a * 16 + b) * 16 + c) * 16 + d)
  | _ =>
    if (s.map Symbol.byteSize).foldl (· + ·) 0 < 4 then .error (.endOfInput .string)
    else .error .invalidEscape

/-- A code unit that begins a surrogate pair. -/
def isLeadUnit (n : Nat) : Bool :=
  0xd800 ≤ n && n ≤ 0xdbff

/-- A code unit that ends a surrogate pair. -/
def isTrailUnit (n : Nat) : Bool :=
  0xdc00 ≤ n && n ≤ 0xdfff

/-- The second half of a surrogate pair, written as an escape of its own. -/
def trailUnit (s : List Symbol) : Except Fault Nat :=
  match s with
  | [] => .error (.endOfInput .string)
  | .char '\\' :: rest =>
    match rest with
    | [] => .error (.endOfInput .string)
    | .char 'u' :: digits => do
      let n ← hexUnit digits
      if isTrailUnit n then .ok n else .error .loneSurrogate
    | _ => .error .brokenSurrogatePair
  | _ => .error .brokenSurrogatePair

/-- The character that an escape stands for and how many symbols it takes after its backslash. -/
def escape (s : List Symbol) : Except Fault (Char × Nat) :=
  match s with
  | [] => .error (.endOfInput .string)
  | .char '"' :: _ => .ok ('"', 1)
  | .char '\\' :: _ => .ok ('\\', 1)
  | .char '/' :: _ => .ok ('/', 1)
  | .char 'b' :: _ => .ok ('\x08', 1)
  | .char 'f' :: _ => .ok ('\x0c', 1)
  | .char 'n' :: _ => .ok ('\n', 1)
  | .char 'r' :: _ => .ok ('\r', 1)
  | .char 't' :: _ => .ok ('\t', 1)
  | .char 'u' :: rest => do
    let lead ← hexUnit rest
    if isTrailUnit lead then .error .loneSurrogate
    else if isLeadUnit lead then
      let trail ← trailUnit (rest.drop 4)
      .ok (Char.ofNat ((lead - 0xd800) * 0x400 + (trail - 0xdc00) + 0x10000), 11)
    else .ok (Char.ofNat lead, 5)
  | _ => .error .invalidEscape

/-- A symbol that may not stand in a string. -/
def isControl : Symbol → Bool
  | .char c => c.toNat < 32
  | .stray _ => false

/-! ## Strings -/

/-- The symbols of a string up to its closing quote, escapes resolved. The first argument counts the
symbols still to be stepped over, which belong to the escape before. -/
def stringBody : (skip : Nat) → List Symbol → Except Fault (Parsed (List Symbol))
  | _, [] => .error (.endOfInput .string)
  | skip + 1, _ :: rest => stringBody skip rest
  | 0, c :: rest =>
    if c = .char '"' then .ok ([], rest)
    else if c = .char '\\' then do
      let (d, taken) ← escape rest
      let (body, rest) ← stringBody taken rest
      .ok (.char d :: body, rest)
    else if isControl c then .error .controlCharacter
    else do
      let (body, rest) ← stringBody 0 rest
      .ok (c :: body, rest)

/-- The text of a string, read from behind its opening quote. A stray byte is reported when the
whole string has been read. -/
def string (s : List Symbol) : Except Fault (Parsed String) := do
  let (body, rest) ← stringBody 0 s
  match body.mapM Symbol.char? with
  | some cs => .ok (String.ofList cs, rest)
  | none => .error .invalidText

/-- How many symbols an escape takes after its backslash when its character does not matter. -/
def skipEscape (s : List Symbol) : Except Fault Nat :=
  match s with
  | .char 'u' :: rest => do
    let _ ← hexUnit rest
    .ok 5
  | _ => do
    let (_, taken) ← escape s
    .ok taken

/-- The input behind the closing quote of a string whose text does not matter. -/
def skipString : (skip : Nat) → List Symbol → Except Fault (List Symbol)
  | _, [] => .error (.endOfInput .string)
  | skip + 1, _ :: rest => skipString skip rest
  | 0, c :: rest =>
    if c = .char '"' then .ok rest
    else if c = .char '\\' then do
      let taken ← skipEscape rest
      skipString taken rest
    else if isControl c then .error .controlCharacter
    else skipString 0 rest

end ComponentSpec.Json.Reader
