import ComponentSpec.Json.Print
import ComponentSpec.Json.Read
import Mathlib.Tactic.SplitIfs

set_option autoImplicit false

/-! # Written scalars read back

What the printer writes for a text, a natural number and the literals is read as what it was, up to
the place where it ends. A number has no end of its own: it must be followed by something that
cannot stand in a number, and `Follows` says what follows a value that is written without blanks.
Main statements: `Reader.string_quoted`, `Reader.number_ofNat`. -/

namespace ComponentSpec.Json

open ComponentSpec.Text (hexDigit hexPadded hexValue?_hexDigit)

/-- What may stand behind a value that is written without blanks. -/
inductive Follows : List Symbol → Prop where
  | nil : Follows []
  | comma (s : List Symbol) : Follows (.char ',' :: s)
  | listEnd (s : List Symbol) : Follows (.char ']' :: s)
  | objectEnd (s : List Symbol) : Follows (.char '\x7d' :: s)

namespace Reader

@[simp] theorem ok_bind {α β : Type} (a : α) (f : α → Except Fault β) :
    (Except.ok a >>= f) = f a :=
  rfl

/-! ## Literals -/

theorem literal_append (cs : List Char) (s : List Symbol) :
    literal cs (Symbol.ofChars cs ++ s) = .ok s := by
  induction cs with
  | nil => rfl
  | cons c cs ih =>
      rw [Symbol.ofChars_cons, List.cons_append, literal, if_pos rfl]
      exact ih

/-! ## Texts -/

theorem hexUnit_hexPadded {n : Nat} (h : n < 65536) (s : List Symbol) :
    hexUnit (Symbol.ofChars (hexPadded 4 n) ++ s) = .ok n := by
  have hdigits : hexPadded 4 n = [hexDigit (n / 16 / 16 / 16 % 16), hexDigit (n / 16 / 16 % 16),
      hexDigit (n / 16 % 16), hexDigit (n % 16)] := rfl
  have hvalue : ∀ k, Text.hexValue? (hexDigit (k % 16)) = some (k % 16) := fun k =>
    hexValue?_hexDigit _ (Nat.mod_lt k (by decide))
  simp only [hdigits, hexUnit, Symbol.ofChars, List.map_cons, List.map_nil, List.cons_append,
    List.nil_append, List.take_succ_cons, List.take_zero, List.mapM_cons, List.mapM_nil, hexOf?,
    hvalue, Option.pure_def, Option.bind_eq_bind, Option.bind_some, Except.ok.injEq]
  omega

theorem stringBody_append (pre s : List Symbol) :
    stringBody pre.length (pre ++ s) = stringBody 0 s := by
  induction pre with
  | nil => rfl
  | cons c pre ih => rw [List.length_cons, List.cons_append, stringBody, ih]

/-- An escape gives its character and is stepped over. -/
theorem stringBody_escape (pre : List Symbol) {c : Char} {taken : Nat} {s : List Symbol}
    (h : escape (pre ++ s) = .ok (c, taken)) (htaken : pre.length = taken) :
    stringBody 0 (.char '\\' :: (pre ++ s))
      = (stringBody 0 s).map fun p => (.char c :: p.1, p.2) := by
  rw [stringBody, if_neg (by decide), if_pos rfl, h, ok_bind, ← htaken]
  simp only [stringBody_append]
  cases stringBody 0 s <;> rfl

theorem escape_hexPadded {n : Nat} (h : n < 32) (s : List Symbol) :
    escape (.char 'u' :: (Symbol.ofChars (hexPadded 4 n) ++ s)) = .ok (Char.ofNat n, 5) := by
  -- Controls lie far below the surrogates.
  have htrail : isTrailUnit n = false := by
    rw [isTrailUnit, Bool.and_eq_false_iff, decide_eq_false_iff_not]
    exact .inl (by omega)
  have hlead : isLeadUnit n = false := by
    rw [isLeadUnit, Bool.and_eq_false_iff, decide_eq_false_iff_not]
    exact .inl (by omega)
  rw [escape, hexUnit_hexPadded (by omega), ok_bind, htrail, hlead]
  rfl

theorem stringBody_escapeChar (c : Char) (s : List Symbol) :
    stringBody 0 (Symbol.ofChars (escapeChar c) ++ s)
      = (stringBody 0 s).map fun p => (.char c :: p.1, p.2) := by
  have hshort : ∀ {d : Char}, escape (.char d :: s) = .ok (c, 1) →
      stringBody 0 (Symbol.ofChars ['\\', d] ++ s)
        = (stringBody 0 s).map fun p => (.char c :: p.1, p.2) := fun h =>
    stringBody_escape [.char _] h rfl
  -- Seven characters have an escape of their own, the other controls their number, and every other
  -- character stands for itself.
  unfold escapeChar
  split_ifs with hquote hslash hb hf hn hr ht hcontrol
  · exact hshort (by rw [hquote]; rfl)
  · exact hshort (by rw [hslash]; rfl)
  · exact hshort (by rw [hb]; rfl)
  · exact hshort (by rw [hf]; rfl)
  · exact hshort (by rw [hn]; rfl)
  · exact hshort (by rw [hr]; rfl)
  · exact hshort (by rw [ht]; rfl)
  · have hescape := escape_hexPadded hcontrol s
    rw [Char.ofNat_toNat] at hescape
    exact stringBody_escape (.char 'u' :: Symbol.ofChars (hexPadded 4 c.toNat)) hescape
      (by simp [Symbol.ofChars])
  · have hplain : isControl (.char c) = false := decide_eq_false hcontrol
    rw [Symbol.ofChars_cons, List.cons_append, stringBody, if_neg (by simpa using hquote),
      if_neg (by simpa using hslash), hplain, if_neg Bool.false_ne_true]
    show (stringBody 0 s >>= _) = _
    cases stringBody 0 s <;> rfl

theorem stringBody_escaped (cs : List Char) (s : List Symbol) :
    stringBody 0 (Symbol.ofChars (cs.flatMap escapeChar) ++ .char '"' :: s)
      = .ok (Symbol.ofChars cs, s) := by
  induction cs with
  | nil => rfl
  | cons c cs ih =>
      rw [List.flatMap_cons, Symbol.ofChars_append, List.append_assoc, stringBody_escapeChar, ih]
      rfl

theorem mapM_char?_ofChars (cs : List Char) : (Symbol.ofChars cs).mapM Symbol.char? = some cs := by
  induction cs with
  | nil => rfl
  | cons c cs ih =>
      rw [Symbol.ofChars_cons, List.mapM_cons, ih]
      rfl

/-- **Written texts read back**, whatever their characters are. -/
theorem string_quoted (t : String) (s : List Symbol) :
    ∃ body, Symbol.ofChars (quoted t) ++ s = .char '"' :: body ∧ string body = .ok (t, s) := by
  refine ⟨Symbol.ofChars (t.toList.flatMap escapeChar) ++ .char '"' :: s, ?_, ?_⟩
  · simp [quoted, Symbol.ofChars]
  · rw [string, stringBody_escaped, ok_bind]
    simp only [mapM_char?_ofChars, String.ofList_toList]

/-! ## Natural numbers -/

theorem digitOf?_digit {d : Nat} (h : d < 10) : digitOf? (.char (Decimal.digit d)) = some d :=
  Decimal.digitValue?_digit d h

/-- No digit follows a value. -/
theorem digitRun_of_follows {s : List Symbol} (h : Follows s) : digitRun s = ([], s) := by
  cases h <;> rfl

theorem digitRun_digits {ds : List Nat} (hds : ∀ d ∈ ds, d < 10) {s : List Symbol}
    (hs : Follows s) : digitRun (Symbol.ofChars (ds.map Decimal.digit) ++ s) = (ds, s) := by
  induction ds with
  | nil => exact digitRun_of_follows hs
  | cons d ds ih =>
      rw [List.forall_mem_cons] at hds
      rw [List.map_cons, Symbol.ofChars_cons, List.cons_append, digitRun, digitOf?_digit hds.1]
      simp only [ih hds.2]

theorem le_foldl_digits (n : Nat) (ds : List Nat) : n ≤ ds.foldl (fun n d => n * 10 + d) n := by
  induction ds generalizing n with
  | nil => exact Nat.le_refl n
  | cons d ds ih =>
      have := ih (n * 10 + d)
      rw [List.foldl_cons]
      omega

/-- Digits of a number below `2 ^ 64` all fit. -/
theorem gather_of_lt {n : Nat} {ds : List Nat}
    (h : ds.foldl (fun n d => n * 10 + d) n < UInt64.size) :
    gather n ds = (ds.foldl (fun n d => n * 10 + d) n, 0) := by
  induction ds generalizing n with
  | nil => rfl
  | cons d ds ih =>
      rw [List.foldl_cons] at h ⊢
      have hle := le_foldl_digits (n * 10 + d) ds
      rw [gather, if_pos (by omega)]
      exact ih h

theorem gather_digits {n : Nat} (h : n < UInt64.size) : gather 0 (Decimal.digits n) = (n, 0) := by
  have hvalue := Decimal.value_digits n
  rw [Decimal.value] at hvalue
  rw [gather_of_lt (by rwa [hvalue]), hvalue]

theorem number_of_digits {d : Nat} {ds : List Nat} {n : Nat} {s : List Symbol} {t : List Symbol}
    (hrun : digitRun t = (d :: ds, s)) (hzero : d = 0 → ds = [])
    (hgather : gather 0 (d :: ds) = (n, 0)) (hs : Follows s) :
    number false t = .ok (.integer n, s) := by
  unfold number
  rw [hrun]
  split
  · rename_i heq
    exact absurd heq (by simp)
  · rename_i heq
    simp only [Prod.mk.injEq, List.cons.injEq] at heq
    exact absurd (hzero heq.1.1) (by simp [heq.1.2])
  · rename_i heq
    obtain ⟨rfl, rfl⟩ := Prod.mk.inj heq
    rw [hgather]
    -- Neither a point nor the letter of an exponent follows a value.
    cases hs <;> rfl

/-- **Written numbers read back**, as long as they have 64 bits. -/
theorem number_ofNat {n : Nat} (h : n < UInt64.size) {s : List Symbol} (hs : Follows s) :
    number false (Symbol.ofChars (Decimal.ofNat n) ++ s) = .ok (.integer n, s) := by
  have hrun := digitRun_digits (fun d => Decimal.lt_ten_of_mem_digits (n := n)) hs
  obtain ⟨d, ds, hdigits, hzero⟩ := Decimal.exists_digits_eq_cons n
  rw [hdigits] at hrun
  rw [Decimal.ofNat, hdigits]
  exact number_of_digits hrun (fun h => (hzero h).2) (hdigits ▸ gather_digits h) hs

end Reader
end ComponentSpec.Json
