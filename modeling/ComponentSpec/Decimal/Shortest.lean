import ComponentSpec.Decimal.Digits

set_option autoImplicit false

/-! # Shortest decimal text of a double

A finite double is `m * 2 ^ q`; the reals that round to it form an interval around it, whose ends
belong to it when `m` is even. Its shortest text uses the coarsest decimal grid that has a point in
this interval, and of the points there the nearest. Everything is computed with natural numbers. -/

namespace ComponentSpec.Decimal

/-- A positive finite double: `mantissa * 2 ^ exponent`. -/
structure Binary where
  mantissa : Nat
  exponent : Int

/-- What 64 bits stand for: the sign and the magnitude, `none` for infinities and what is no
number. -/
def Binary.ofBits (bits : UInt64) : Bool × Option Binary :=
  let n := bits.toNat
  let fraction := n % 1 <<< 52
  let scale := n >>> 52 % 2048
  let magnitude : Option Binary :=
    if scale = 2047 then none
    else if scale = 0 then some ⟨fraction, -1074⟩
    else some ⟨1 <<< 52 + fraction, Int.ofNat scale - 1075⟩
  (decide (1 <<< 63 ≤ n), magnitude)

/-- A power with an integer exponent, as numerator and denominator. -/
def ratioPow (base : Nat) (e : Int) : Nat × Nat :=
  if 0 ≤ e then (base.pow e.toNat, 1) else (1, base.pow (-e).toNat)

/-- Numerator and denominator of `2 ^ q / 10 ^ k`. -/
def gridRatio (q k : Int) : Nat × Nat :=
  let (a, b) := ratioPow 2 q
  let (c, d) := ratioPow 10 k
  (a * d, b * c)

/-- The point of the grid `10 ^ k` that stands for `x`, if one lies in the interval of `x`.
The bounds are compared in quarters of the last place, for below a power of two it is halved. -/
def Binary.onGrid? (x : Binary) (k : Int) : Option Nat :=
  let (num, den) := gridRatio x.exponent k
  let low := if x.mantissa = 1 <<< 52 ∧ x.exponent ≠ -1074 then 1 else 2
  let inside (point : Nat) : Bool :=
    let p := 4 * point * den
    let v := 4 * x.mantissa * num
    if x.mantissa % 2 = 0 then v ≤ p + low * num && p ≤ v + 2 * num
    else v < p + low * num && p < v + 2 * num
  let below := x.mantissa * num / den
  let rest := x.mantissa * num % den
  let above := below + 1
  let nearerAbove := den < 2 * rest || (den = 2 * rest && below % 2 = 1)
  if inside below && 0 < below then
    if inside above && nearerAbove then some above else some below
  else if inside above then some above
  else none

/-- The decimal exponent of the leading digit of `x`, searched from the largest double down. -/
def Binary.leading (x : Binary) : Int :=
  let fits (i : Nat) : Bool :=
    let (num, den) := gridRatio x.exponent (309 - Int.ofNat i)
    den ≤ x.mantissa * num
  match (List.range 640).find? fits with
  | some i => 309 - Int.ofNat i
  | none => -331

/-- The shortest digits of `x` and the decimal exponent of the first of them. -/
def Binary.shortest (x : Binary) : List Nat × Int :=
  let top := x.leading + 1
  let onGrid (i : Nat) : Option (Nat × Int) :=
    (x.onGrid? (top - Int.ofNat i)).map fun point => (point, top - Int.ofNat i)
  match (List.range 20).findSome? onGrid with
  | some (point, k) =>
    let ds := digits point
    ((ds.reverse.dropWhile (· = 0)).reverse, k + ds.length - 1)
  | none => (digits x.mantissa, 0)

/-- Digits in positional notation, the first of them at the decimal place `lead`. -/
def positional (ds : List Nat) (lead : Int) : List Char :=
  if lead < 0 then
    '0' :: '.' :: List.replicate ((-lead).toNat - 1) '0' ++ ds.map digit
  else
    let whole := lead.toNat + 1
    let fraction := ds.drop whole
    ds.take whole |>.map digit
      |> (· ++ List.replicate (whole - ds.length) '0')
      |> (· ++ '.' :: (if fraction.isEmpty then ['0'] else fraction.map digit))

/-- Digits in exponent notation; the exponent carries its sign. -/
def scientific (ds : List Nat) (lead : Int) : List Char :=
  let fraction := ds.drop 1
  (ds.take 1).map digit ++ (if fraction.isEmpty then [] else '.' :: fraction.map digit)
    ++ 'e' :: (if lead < 0 then ofInt lead else '+' :: ofInt lead)

/-- The text of a double: positional for leading places from `-5` to `15`, always with a point. -/
def ofBits (bits : UInt64) : List Char :=
  let (negative, magnitude) := Binary.ofBits bits
  let text :=
    match magnitude with
    | none => "inf".toList
    | some ⟨0, _⟩ => "0.0".toList
    | some x =>
      let (ds, lead) := x.shortest
      if -5 ≤ lead && lead ≤ 15 then positional ds lead else scientific ds lead
  if negative then '-' :: text else text

end ComponentSpec.Decimal
