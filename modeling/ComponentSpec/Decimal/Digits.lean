set_option autoImplicit false

/-! # Decimal digits

Integers as decimal text, and the value of a run of digits. -/

namespace ComponentSpec.Decimal

/-- The digit character of `d`, for `d < 10`. -/
def digit (d : Nat) : Char :=
  Char.ofNat (48 + d)

/-- The value of a decimal digit. -/
def digitValue? (c : Char) : Option Nat :=
  if '0' ≤ c ∧ c ≤ '9' then some (c.toNat - 48) else none

theorem digitValue?_digit (d : Nat) (h : d < 10) : digitValue? (digit d) = some d := by
  revert d
  decide

/-- The digits of `n`, the highest first and no leading zero. -/
def digits (n : Nat) : List Nat :=
  if n < 10 then [n] else digits (n / 10) ++ [n % 10]

theorem lt_ten_of_mem_digits {n d : Nat} (h : d ∈ digits n) : d < 10 := by
  induction n using Nat.strongRecOn with
  | ind n ih =>
    rw [digits] at h
    split at h
    · rw [List.mem_singleton] at h
      omega
    · rw [List.mem_append, List.mem_singleton] at h
      cases h with
      | inl h => exact ih (n / 10) (by omega) h
      | inr h => omega

/-- Zero stands first only where it stands alone. -/
theorem exists_digits_eq_cons (n : Nat) :
    ∃ d ds, digits n = d :: ds ∧ (d = 0 → n = 0 ∧ ds = []) := by
  induction n using Nat.strongRecOn with
  | ind n ih =>
    rw [digits]
    split
    · exact ⟨n, [], rfl, fun h => ⟨h, rfl⟩⟩
    · obtain ⟨d, ds, hdigits, hzero⟩ := ih (n / 10) (by omega)
      refine ⟨d, ds ++ [n % 10], by rw [hdigits, List.cons_append], fun h => ?_⟩
      have := (hzero h).1
      omega

/-- The number that a run of digit values denotes, the highest first. -/
def value (ds : List Nat) : Nat :=
  ds.foldl (fun n d => n * 10 + d) 0

theorem value_concat (ds : List Nat) (d : Nat) : value (ds ++ [d]) = value ds * 10 + d := by
  simp [value]

theorem value_digits (n : Nat) : value (digits n) = n := by
  induction n using Nat.strongRecOn with
  | ind n ih =>
    rw [digits]
    split
    · simp [value]
    · rw [value_concat, ih (n / 10) (by omega)]
      omega

/-- A natural number in decimal. -/
def ofNat (n : Nat) : List Char :=
  (digits n).map digit

theorem exists_ofNat_eq_cons (n : Nat) : ∃ d cs, d < 10 ∧ ofNat n = digit d :: cs := by
  obtain ⟨d, ds, hdigits, -⟩ := exists_digits_eq_cons n
  have hd : d < 10 := lt_ten_of_mem_digits (hdigits ▸ List.mem_cons_self)
  exact ⟨d, ds.map digit, hd, by rw [ofNat, hdigits, List.map_cons]⟩

/-- An integer in decimal, with a sign when it is negative. -/
def ofInt : Int → List Char
  | .ofNat n => ofNat n
  | .negSucc n => '-' :: ofNat (n + 1)

end ComponentSpec.Decimal
