import ComponentSpec.Decimal.Digits
import ComponentSpec.Json.Lexeme

set_option autoImplicit false

/-! # Numbers

A number's digits are gathered into a significand of 64 bits; digits that no longer fit only move
the decimal exponent. A number with neither point nor exponent whose digits fit is an integer,
every other one is a double. `skipNumber` follows the grammar alone, so no number is too large for
it. -/

namespace ComponentSpec.Json.Reader

/-- The value of a decimal digit. -/
def digitOf? : Symbol → Option Nat
  | .char c => Decimal.digitValue? c
  | .stray _ => none

/-- The digits at the start of the input and what follows them. -/
def digitRun : List Symbol → List Nat × List Symbol
  | [] => ([], [])
  | c :: rest =>
    match digitOf? c with
    | some d => ((d :: (digitRun rest).1), (digitRun rest).2)
    | none => ([], c :: rest)

/-- The fault of a place that needs a digit and has none. -/
def noDigit (s : List Symbol) : Fault :=
  if s.isEmpty then .endOfInput .value else .invalidNumber

/-- Digits appended to a significand of 64 bits, and how many no longer fit. -/
def gather : (significand : Nat) → List Nat → Nat × Nat
  | n, [] => (n, 0)
  | n, d :: ds => if n * 10 + d < UInt64.size then gather (n * 10 + d) ds else (n, (d :: ds).length)

/-! ## Doubles -/

/-- A power of ten up to the largest double. -/
def tenTo (k : Nat) : Float :=
  Float.ofScientific 1 false k

/-- The double for `significand * 10 ^ exponent`, rounded after each of the at most two steps,
unless it would be infinite. -/
def double? (significand : Nat) (exponent : Int) : Option Float :=
  let f := significand.toUInt64.toFloat
  if significand = 0 then some f
  else if 308 < exponent then none
  else if 0 ≤ exponent then
    let g := f * tenTo exponent.toNat
    if g.isInf then none else some g
  else if -308 ≤ exponent then some (f / tenTo (-exponent).toNat)
  else if -616 ≤ exponent then some (f / tenTo 308 / tenTo (-exponent - 308).toNat)
  else some 0

/-- A double as a value, with the sign read before it. -/
def doubleValue (negative : Bool) (significand : Nat) (exponent : Int) : Except Fault Json :=
  match double? significand exponent with
  | some f => .ok (.float (if negative then -f else f).toBits)
  | none => .error .numberTooLarge

/-! ## Reading -/

/-- The exponent of a number from behind its letter: its sign and digits. -/
def exponentPart (s : List Symbol) : Except Fault (Parsed (Bool × List Nat)) :=
  let (negative, s) :=
    match s with
    | .char '+' :: rest => (false, rest)
    | .char '-' :: rest => (true, rest)
    | _ => (false, s)
  match digitRun s with
  | ([], rest) => .error (noDigit rest)
  | (ds, rest) => .ok ((negative, ds), rest)

/-- Whether the input goes on with the letter of an exponent. -/
def isExponentLetter : Symbol → Bool
  | .char c => c = 'e' || c = 'E'
  | .stray _ => false

/-- A double whose significand is complete: an exponent may follow. One beyond 31 bits makes any
significand but zero too large, or zero when it is negative. -/
def doubleTail (negative : Bool) (significand : Nat) (exponent : Int) (s : List Symbol) :
    Except Fault (Parsed Json) :=
  match s with
  | c :: rest =>
    if isExponentLetter c then do
      let ((down, ds), rest) ← exponentPart rest
      let e := Decimal.value ds
      if 1 <<< 31 ≤ e then
        if significand ≠ 0 && !down then .error .numberTooLarge
        else .ok (← doubleValue negative 0 0, rest)
      else
        let exponent := if down then exponent - e else exponent + e
        .ok (← doubleValue negative significand exponent, rest)
    else do .ok (← doubleValue negative significand exponent, s)
  | [] => do .ok (← doubleValue negative significand exponent, s)

/-- An integer as a value. Zero with a sign and integers below `-2 ^ 63` are doubles. -/
def integerValue (negative : Bool) (n : Nat) : Except Fault Json :=
  if !negative then .ok (.integer n)
  else if n = 0 || 1 <<< 63 < n then doubleValue true n 0
  else .ok (.integer (-(n : Int)))

/-- A number from behind its sign. -/
def number (negative : Bool) (s : List Symbol) : Except Fault (Parsed Json) :=
  match digitRun s with
  | ([], rest) => .error (noDigit rest)
  | (0 :: _ :: _, _) => .error .invalidNumber
  | (ds, rest) =>
    let (n, left) := gather 0 ds
    match rest with
    | .char '.' :: rest =>
      match digitRun rest with
      | ([], rest) => .error (noDigit rest)
      | (fs, rest) =>
        let (n, lost) := gather n fs
        doubleTail negative n (Int.ofNat left - Int.ofNat (fs.length - lost)) rest
    | c :: _ =>
      if left = 0 && !isExponentLetter c then do .ok (← integerValue negative n, rest)
      else doubleTail negative n left rest
    | [] =>
      if left = 0 then do .ok (← integerValue negative n, []) else doubleTail negative n left []

/-! ## Skipping -/

/-- The input behind the exponent of a number, if it has one. -/
def skipExponent (s : List Symbol) : Except Fault (List Symbol) :=
  match s with
  | c :: rest =>
    if isExponentLetter c then
      match exponentPart rest with
      | .ok (_, rest) => .ok rest
      | .error _ => .error .invalidNumber
    else .ok s
  | [] => .ok []

/-- The input behind a number, from behind its sign. Every flaw is an invalid number, also an early
end. -/
def skipNumber (s : List Symbol) : Except Fault (List Symbol) :=
  match digitRun s with
  | ([], _) => .error .invalidNumber
  | (0 :: _ :: _, _) => .error .invalidNumber
  | (_, .char '.' :: rest) =>
    match digitRun rest with
    | ([], _) => .error .invalidNumber
    | (_, rest) => skipExponent rest
  | (_, rest) => skipExponent rest

end ComponentSpec.Json.Reader
