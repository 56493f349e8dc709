set_option autoImplicit false

/-! # Hexadecimal digits

Lower-case digits for writing, digits of both cases for reading, and texts of a fixed number of
digits with leading zeros. `readHex?_hexPadded`: a number that fits its digits reads back. -/

namespace ComponentSpec.Text

/-- The lower-case digit of `d`, for `d < 16`. -/
def hexDigit (d : Nat) : Char :=
  if d < 10 then Char.ofNat (48 + d) else Char.ofNat (87 + d)

/-- The value of a hexadecimal digit of either case. -/
def hexValue? (c : Char) : Option Nat :=
  if '0' ≤ c ∧ c ≤ '9' then some (c.toNat - 48)
  else if 'a' ≤ c ∧ c ≤ 'f' then some (c.toNat - 87)
  else if 'A' ≤ c ∧ c ≤ 'F' then some (c.toNat - 55)
  else none

theorem hexValue?_hexDigit (d : Nat) (h : d < 16) : hexValue? (hexDigit d) = some d := by
  revert d
  decide

/-- The lower-case digits in the order of their values. -/
def lowerHexDigits : List Char :=
  "0123456789abcdef".toList

theorem lowerHexDigits_eq_map : lowerHexDigits = (List.range 16).map hexDigit := by
  decide

theorem mem_lowerHexDigits_iff {c : Char} : c ∈ lowerHexDigits ↔ ∃ d < 16, hexDigit d = c := by
  simp only [lowerHexDigits_eq_map, List.mem_map, List.mem_range]

/-- The last `width` hexadecimal digits of `n`, leading zeros included. -/
def hexPadded : (width : Nat) → (n : Nat) → List Char
  | 0, _ => []
  | width + 1, n => hexPadded width (n / 16) ++ [hexDigit (n % 16)]

@[simp] theorem length_hexPadded (width n : Nat) : (hexPadded width n).length = width := by
  induction width generalizing n with
  | zero => rfl
  | succ width ih => simp [hexPadded, ih]

theorem mem_lowerHexDigits_of_mem_hexPadded {width n : Nat} {c : Char} (h : c ∈ hexPadded width n) :
    c ∈ lowerHexDigits := by
  induction width generalizing n with
  | zero => exact absurd h (by simp [hexPadded])
  | succ width ih =>
      rw [hexPadded, List.mem_append, List.mem_singleton] at h
      rcases h with h | rfl
      · exact ih h
      · exact mem_lowerHexDigits_iff.2 ⟨n % 16, Nat.mod_lt n (by decide), rfl⟩

/-- The hexadecimal digits of `n` without leading zeros; zero is written as one digit. -/
def hexShort (n : Nat) : List Char :=
  if n < 16 then [hexDigit n] else hexShort (n / 16) ++ [hexDigit (n % 16)]

/-- The number that hexadecimal digits of either case denote, the highest first. -/
def readHex? (cs : List Char) : Option Nat :=
  cs.foldl (fun acc c => do return (← acc) * 16 + (← hexValue? c)) (some 0)

theorem readHex?_concat (cs : List Char) (c : Char) :
    readHex? (cs ++ [c]) = do return (← readHex? cs) * 16 + (← hexValue? c) := by
  simp [readHex?]

theorem readHex?_hexPadded (width n : Nat) (h : n < Nat.pow 16 width) :
    readHex? (hexPadded width n) = some n := by
  induction width generalizing n with
  | zero =>
    have hn : n = 0 := by simpa using h
    subst hn
    rfl
  | succ width ih =>
    have hn : n / 16 < Nat.pow 16 width := by
      rw [Nat.pow_eq, Nat.pow_succ] at h
      rw [Nat.pow_eq]
      omega
    rw [hexPadded, readHex?_concat, ih _ hn, hexValue?_hexDigit _ (Nat.mod_lt n (by decide))]
    simp only [Option.bind_eq_bind, Option.bind_some, Option.pure_def, Option.some.injEq]
    omega

end ComponentSpec.Text
