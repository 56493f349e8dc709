import ComponentSpec.Json.Read
import ComponentSpec.Proofs.Json.Lexeme
import Mathlib.Data.List.DropRight

set_option autoImplicit false

/-! # What is read is what is skipped

A skipped value is checked for its grammar only, by other readers than a value that is wanted. They
agree on where it ends: whatever takes a value from the front of the input leaves what skipping
leaves. `Skips s r` says that skipping goes from `s` to `r`; there is one lemma for each way to
read, scalars (`skips_of_skipScalar`), lists (`Skips.list`) and objects (`Skips.object`), where
items and entries may be taken by any readers in step with skipping. -/

namespace ComponentSpec.Json.Reader

theorem exists_of_bind_eq_ok {α β : Type} {x : Except Fault α} {f : α → Except Fault β} {b : β}
    (h : (x >>= f) = .ok b) : ∃ a, x = .ok a ∧ f a = .ok b := by
  cases x with
  | error e => exact absurd h nofun
  | ok a => exact ⟨a, rfl, h⟩

theorem refuse_ne_ok {α : Type} (wanted : Wanted) (s : List Symbol) (a : α) :
    refuse wanted s ≠ .ok a := by
  intro h
  obtain ⟨v, -, hv⟩ := exists_of_bind_eq_ok h
  exact absurd hv nofun

variable {s r : List Symbol}

/-! ## Strings -/

theorem skipString_eq_drop (skip : Nat) (s : List Symbol) :
    skipString skip s = skipString 0 (s.drop skip) := by
  induction s generalizing skip with
  | nil => cases skip <;> rfl
  | cons c s ih =>
      cases skip with
      | zero => rfl
      | succ skip => exact ih skip

theorem exists_trail_of_trailUnit {n : Nat} (h : trailUnit s = .ok n) :
    ∃ digits m, s = .char '\\' :: .char 'u' :: digits ∧ hexUnit digits = .ok m := by
  unfold trailUnit at h
  split at h
  · exact absurd h nofun
  · split at h
    · exact absurd h nofun
    · obtain ⟨m, hm, -⟩ := exists_of_bind_eq_ok h
      exact ⟨_, m, rfl, hm⟩
    · exact absurd h nofun
  · exact absurd h nofun

/-- The escape of a surrogate pair is read at once and skipped as two escapes. -/
theorem exists_skipEscape {d : Char} {taken : Nat} (h : escape s = .ok (d, taken)) :
    ∃ n, skipEscape s = .ok n ∧ skipString n s = skipString taken s := by
  unfold skipEscape
  split
  · rename_i digits
    rw [escape] at h
    obtain ⟨lead, hlead, h⟩ := exists_of_bind_eq_ok h
    rw [hlead]
    refine ⟨5, rfl, ?_⟩
    split_ifs at h with htrail hpair
    · obtain ⟨trail, htrailUnit, h⟩ := exists_of_bind_eq_ok h
      obtain ⟨-, rfl⟩ := Prod.mk.inj (Except.ok.inj h)
      obtain ⟨digits', m, hdrop, hm⟩ := exists_trail_of_trailUnit htrailUnit
      have hlast : digits.drop 10 = digits'.drop 4 := by
        rw [show 10 = 4 + 6 from rfl, ← List.drop_drop, hdrop]
        rfl
      rw [skipString_eq_drop, skipString_eq_drop 11, List.drop_succ_cons, List.drop_succ_cons,
        hlast, hdrop]
      show (skipEscape (.char 'u' :: digits') >>= _) = _
      rw [skipEscape, hm]
      exact skipString_eq_drop 4 digits'
    · obtain ⟨-, rfl⟩ := Prod.mk.inj (Except.ok.inj h)
      rfl
  · rw [h]
    exact ⟨taken, rfl, rfl⟩

theorem skipString_of_stringBody {skip : Nat} {body : List Symbol}
    (h : stringBody skip s = .ok (body, r)) : skipString skip s = .ok r := by
  induction s generalizing skip body r with
  | nil => exact absurd h (by simp [stringBody])
  | cons c s ih =>
      cases skip with
      | succ skip => exact ih h
      | zero =>
          rw [stringBody] at h
          rw [skipString]
          split_ifs at h ⊢ with hquote hescape
          · obtain ⟨-, rfl⟩ := Prod.mk.inj (Except.ok.inj h)
            rfl
          · obtain ⟨⟨d, taken⟩, htaken, h⟩ := exists_of_bind_eq_ok h
            obtain ⟨⟨body', r'⟩, hrest, h⟩ := exists_of_bind_eq_ok h
            obtain ⟨-, rfl⟩ := Prod.mk.inj (Except.ok.inj h)
            obtain ⟨n, hn, hskip⟩ := exists_skipEscape htaken
            rw [hn, ok_bind, hskip]
            exact ih hrest
          · obtain ⟨⟨body', r'⟩, hrest, h⟩ := exists_of_bind_eq_ok h
            obtain ⟨-, rfl⟩ := Prod.mk.inj (Except.ok.inj h)
            exact ih hrest

theorem skipString_of_string {t : String} (h : string s = .ok (t, r)) :
    skipString 0 s = .ok r := by
  obtain ⟨⟨body, r'⟩, hbody, h⟩ := exists_of_bind_eq_ok h
  cases hcs : body.mapM Symbol.char? with
  | none =>
      simp only [hcs] at h
      exact absurd h nofun
  | some cs =>
      simp only [hcs] at h
      obtain ⟨-, rfl⟩ := Prod.mk.inj (Except.ok.inj h)
      exact skipString_of_stringBody hbody

/-! ## Numbers -/

theorem skipExponent_of_doubleTail {negative : Bool} {significand : Nat} {exponent : Int} {v : Json}
    (h : doubleTail negative significand exponent s = .ok (v, r)) : skipExponent s = .ok r := by
  cases s with
  | nil =>
      obtain ⟨f, -, h⟩ := exists_of_bind_eq_ok h
      obtain ⟨-, rfl⟩ := Prod.mk.inj (Except.ok.inj h)
      rfl
  | cons c s =>
      rw [doubleTail] at h
      rw [skipExponent]
      split_ifs at h ⊢ with hletter
      · obtain ⟨⟨⟨down, ds⟩, rest⟩, hpart, h⟩ := exists_of_bind_eq_ok h
        rw [hpart]
        simp only at h
        split_ifs at h
        all_goals
          obtain ⟨f, -, h⟩ := exists_of_bind_eq_ok h
          obtain ⟨-, rfl⟩ := Prod.mk.inj (Except.ok.inj h)
          rfl
      · obtain ⟨f, -, h⟩ := exists_of_bind_eq_ok h
        obtain ⟨-, rfl⟩ := Prod.mk.inj (Except.ok.inj h)
        rfl

theorem skipNumber_of_number {negative : Bool} {v : Json} (h : number negative s = .ok (v, r)) :
    skipNumber s = .ok r := by
  rw [number] at h
  rw [skipNumber]
  split at h
  · exact absurd h nofun
  · exact absurd h nofun
  · rename_i ds rest hnil hzero hrun
    rw [hrun]
    split
    · rename_i heq
      exact absurd (Prod.mk.inj heq).1 hnil
    · rename_i heq
      exact absurd (Prod.mk.inj heq).1 (hzero _ _)
    · rename_i rest' heq
      obtain ⟨rfl, rfl⟩ := Prod.mk.inj heq
      simp only at h
      split at h
      · exact absurd h nofun
      · exact skipExponent_of_doubleTail h
    · rename_i hpoint heq
      obtain ⟨rfl, rfl⟩ := Prod.mk.inj heq
      simp only at h
      split at h
      · exact (hpoint _ rfl).elim
      · split_ifs at h with hinteger
        · obtain ⟨f, -, h⟩ := exists_of_bind_eq_ok h
          obtain ⟨-, rfl⟩ := Prod.mk.inj (Except.ok.inj h)
          simp only [Bool.and_eq_true, Bool.not_eq_true'] at hinteger
          rw [skipExponent, hinteger.2]
          rfl
        · exact skipExponent_of_doubleTail h
      · split_ifs at h with hinteger
        · obtain ⟨f, -, h⟩ := exists_of_bind_eq_ok h
          obtain ⟨-, rfl⟩ := Prod.mk.inj (Except.ok.inj h)
          rfl
        · exact skipExponent_of_doubleTail h

/-! ## Scalars -/

theorem skipScalar_of_scalar {v : Json} (h : scalar s = .ok (v, r)) : skipScalar s = .ok r := by
  unfold scalar at h
  split at h
  · obtain ⟨r', hliteral, h⟩ := exists_of_bind_eq_ok h
    obtain ⟨-, rfl⟩ := Prod.mk.inj (Except.ok.inj h)
    exact hliteral
  · obtain ⟨r', hliteral, h⟩ := exists_of_bind_eq_ok h
    obtain ⟨-, rfl⟩ := Prod.mk.inj (Except.ok.inj h)
    exact hliteral
  · obtain ⟨r', hliteral, h⟩ := exists_of_bind_eq_ok h
    obtain ⟨-, rfl⟩ := Prod.mk.inj (Except.ok.inj h)
    exact hliteral
  · obtain ⟨⟨t, r'⟩, hstring, h⟩ := exists_of_bind_eq_ok h
    obtain ⟨-, rfl⟩ := Prod.mk.inj (Except.ok.inj h)
    exact skipString_of_string hstring
  · exact skipNumber_of_number h
  · split_ifs at h with hdigit
    rw [skipScalar, if_pos hdigit]
    · exact skipNumber_of_number h
    all_goals assumption
  · cases h

theorem length_le_of_literal {cs : List Char} (h : literal cs s = .ok r) : r.length ≤ s.length := by
  induction cs generalizing s with
  | nil =>
      obtain rfl := Except.ok.inj h
      exact Nat.le_refl _
  | cons c cs ih =>
      cases s with
      | nil => exact absurd h nofun
      | cons d s =>
          rw [literal] at h
          split_ifs at h
          exact Nat.le_succ_of_le (ih h)

theorem length_lt_of_skipString {skip : Nat} (h : skipString skip s = .ok r) :
    r.length < s.length := by
  induction s generalizing skip with
  | nil => exact absurd h (by simp [skipString])
  | cons c s ih =>
      rw [List.length_cons]
      cases skip with
      | succ skip => exact Nat.lt_succ_of_lt (ih h)
      | zero =>
          rw [skipString] at h
          split_ifs at h with hquote hescape
          · obtain rfl := Except.ok.inj h
            exact Nat.lt_succ_self _
          · obtain ⟨taken, -, h⟩ := exists_of_bind_eq_ok h
            exact Nat.lt_succ_of_lt (ih h)
          · exact Nat.lt_succ_of_lt (ih h)

theorem length_digitRun (s : List Symbol) :
    (digitRun s).1.length + (digitRun s).2.length = s.length := by
  induction s with
  | nil => rfl
  | cons c s ih =>
      rw [digitRun]
      split
      · simp only [List.length_cons]
        omega
      · simp

theorem length_lt_of_digitRun {ds : List Nat} (h : digitRun s = (ds, r)) (hds : ds ≠ []) :
    r.length < s.length := by
  have hlength := length_digitRun s
  have hpos := List.length_pos_iff.2 hds
  rw [h] at hlength
  simp only at hlength
  omega

theorem length_le_of_exponentPart {part : Bool × List Nat} (h : exponentPart s = .ok (part, r)) :
    r.length ≤ s.length := by
  unfold exponentPart at h
  split at h
  rename_i negative s' hsign
  have hle : r.length ≤ s'.length := by
    split at h
    · cases h
    · rename_i ds rest hds hrun
      obtain ⟨-, rfl⟩ := Prod.mk.inj (Except.ok.inj h)
      exact Nat.le_of_lt (length_lt_of_digitRun hrun hds)
  split at hsign
  · obtain ⟨-, rfl⟩ := Prod.mk.inj hsign
    exact Nat.le_succ_of_le hle
  · obtain ⟨-, rfl⟩ := Prod.mk.inj hsign
    exact Nat.le_succ_of_le hle
  · obtain ⟨-, rfl⟩ := Prod.mk.inj hsign
    exact hle

theorem length_le_of_skipExponent (h : skipExponent s = .ok r) : r.length ≤ s.length := by
  cases s with
  | nil =>
      obtain rfl := Except.ok.inj h
      exact Nat.le_refl _
  | cons c s =>
      rw [skipExponent] at h
      split_ifs at h with hletter
      · split at h
        · rename_i part rest hpart
          obtain rfl := Except.ok.inj h
          exact Nat.le_succ_of_le (length_le_of_exponentPart hpart)
        · exact absurd h nofun
      · obtain rfl := Except.ok.inj h
        exact Nat.le_refl _

theorem length_lt_of_skipNumber (h : skipNumber s = .ok r) : r.length < s.length := by
  rw [skipNumber] at h
  split at h
  · exact absurd h nofun
  · exact absurd h nofun
  · rename_i ds rest hnil _ hrun
    have hlt := length_lt_of_digitRun hrun hnil
    rw [List.length_cons] at hlt
    split at h
    · exact absurd h nofun
    · rename_i fs rest' hfs hrun'
      have hlt' := length_lt_of_digitRun hrun' hfs
      have hle := length_le_of_skipExponent h
      omega
  · rename_i ds rest hnil _ _ hrun
    exact Nat.lt_of_le_of_lt (length_le_of_skipExponent h) (length_lt_of_digitRun hrun hnil)

theorem length_lt_of_skipScalar (h : skipScalar s = .ok r) : r.length < s.length := by
  unfold skipScalar at h
  split at h
  · exact Nat.lt_succ_of_le (length_le_of_literal h)
  · exact Nat.lt_succ_of_le (length_le_of_literal h)
  · exact Nat.lt_succ_of_le (length_le_of_literal h)
  · exact Nat.lt_succ_of_lt (length_lt_of_skipString h)
  · exact Nat.lt_succ_of_lt (length_lt_of_skipNumber h)
  · split_ifs at h with hdigit
    exact length_lt_of_skipNumber h
  · exact absurd h nofun

/-! ## Where skipping goes -/

/-- Skipping comes to the end of a value before `r`, with any fuel left over and whatever is open
around the value. It takes at most `bound` rounds less two for each symbol of `r`. -/
def Leads (bound : Nat) (skip : (fuel : Nat) → List Frame → Except Fault (List Symbol))
    (r : List Symbol) : Prop :=
  ∃ rounds, rounds + 2 * r.length ≤ bound
    ∧ ∀ fuel frames, skip (fuel + rounds) frames = skipClosing fuel frames r

/-- One round more. -/
theorem Leads.step {bound bound' : Nat}
    {skip skip' : (fuel : Nat) → List Frame → Except Fault (List Symbol)}
    (h : Leads bound skip r) (hlt : bound < bound')
    (hskip : ∀ fuel frames, skip' (fuel + 1) frames = skip fuel frames) :
    Leads bound' skip' r := by
  obtain ⟨rounds, hrounds, hleads⟩ := h
  refine ⟨rounds + 1, by omega, fun fuel frames => ?_⟩
  rw [← Nat.add_assoc, hskip, hleads]

theorem leads_skipClosing (r : List Symbol) :
    Leads (2 * r.length) (fun fuel frames => skipClosing fuel frames r) r :=
  ⟨0, by omega, fun _ _ => rfl⟩

/-- Skipping goes from `s` to `r` over one value. The bound on the rounds is the one that
`skipValue` starts with. -/
def Skips (s r : List Symbol) : Prop :=
  Leads (2 * s.length) (fun fuel frames => skipOpen fuel frames s) r

theorem skipClosing_nil (fuel : Nat) (s : List Symbol) : skipClosing fuel [] s = .ok s := by
  rw [skipClosing]

theorem Skips.skipValue (h : Skips s r) : skipValue s = .ok r := by
  obtain ⟨rounds, hrounds, hskip⟩ := h
  have hfuel : 2 * s.length + 1 = (2 * s.length + 1 - rounds) + rounds := by omega
  rw [Reader.skipValue, hfuel, ← skipClosing_nil (2 * s.length + 1 - rounds)]
  exact hskip _ []

theorem length_skipBlanks_le (s : List Symbol) : (skipBlanks s).length ≤ s.length :=
  (List.dropWhile_suffix _).length_le

theorem skipBlanks_skipBlanks (s : List Symbol) : skipBlanks (skipBlanks s) = skipBlanks s :=
  List.dropWhile_idempotent _ _

theorem Skips.of_skipBlanks (h : Skips (skipBlanks s) r) : Skips s r := by
  obtain ⟨rounds, hrounds, hskip⟩ := h
  refine ⟨rounds, ?_, fun fuel frames => ?_⟩
  · have hle := length_skipBlanks_le s
    omega
  · refine Eq.trans ?_ (hskip fuel frames)
    cases fuel + rounds with
    | zero => rfl
    | succ n =>
        show skipOpen (n + 1) frames s = skipOpen (n + 1) frames (skipBlanks s)
        rw [skipOpen, skipOpen, skipBlanks_skipBlanks]

theorem skipOpen_scalar (h : skipScalar (skipBlanks s) = .ok r) (fuel : Nat)
    (frames : List Frame) : skipOpen (fuel + 1) frames s = skipClosing fuel frames r := by
  rw [skipOpen]
  split
  · rename_i heq
    rw [heq] at h
    exact absurd h nofun
  · rename_i heq
    rw [heq] at h
    exact absurd h nofun
  · rw [h]
    rfl

theorem length_lt_of_skipScalar_skipBlanks (h : skipScalar (skipBlanks s) = .ok r) :
    r.length < s.length :=
  Nat.lt_of_lt_of_le (length_lt_of_skipScalar h) (length_skipBlanks_le s)

theorem skips_of_skipScalar (h : skipScalar (skipBlanks s) = .ok r) : Skips s r := by
  have hlt := length_lt_of_skipScalar_skipBlanks h
  exact (leads_skipClosing r).step (by omega) (skipOpen_scalar h)

/-- A head that is neither list nor object is a whole scalar. -/
theorem scalar_of_head {v : Json} (h : head s = .ok (v, r)) (hlist : ∀ vs, v ≠ .array vs)
    (hobject : ∀ es, v ≠ .object es) : scalar (skipBlanks s) = .ok (v, r) := by
  rw [head] at h
  split at h
  · exact absurd (Prod.mk.inj (Except.ok.inj h)).1.symm (hlist _)
  · exact absurd (Prod.mk.inj (Except.ok.inj h)).1.symm (hobject _)
  · exact h

/-! ## Inside lists and objects -/

/-- Skipping goes from `s`, inside a list or an object, to `r` behind its end. Either nothing of
it has been skipped yet or there is an item before `s`. -/
inductive SkipsOut (frame : Frame) : (first : Bool) → (s r : List Symbol) → Prop where
  | first {s r : List Symbol}
    (h : Leads (2 * s.length + 1) (fun fuel frames => skipOpened fuel frame frames s) r) :
    SkipsOut frame true s r
  | later {s r : List Symbol}
    (h : Leads (2 * s.length) (fun fuel frames => skipClosing fuel (frame :: frames) s) r) :
    SkipsOut frame false s r

/-- An item, and then the rest of what it stands in. -/
theorem Skips.andThen {frame : Frame} {t : List Symbol} (h : Skips s t)
    (hrest : SkipsOut frame false t r) :
    Leads (2 * s.length) (fun fuel frames => skipOpen fuel (frame :: frames) s) r := by
  obtain ⟨n, hn, hskip⟩ := h
  cases hrest with
  | later hrest =>
      obtain ⟨m, hm, hskipRest⟩ := hrest
      refine ⟨m + n, by omega, fun fuel frames => ?_⟩
      calc skipOpen (fuel + (m + n)) (frame :: frames) s
          = skipOpen (fuel + m + n) (frame :: frames) s := by rw [Nat.add_assoc]
        _ = skipClosing (fuel + m) (frame :: frames) t := hskip _ _
        _ = skipClosing fuel frames r := hskipRest fuel frames

theorem skipOpened_of_close {frame : Frame} (h : skipBlanks s = frame.close :: r) (fuel : Nat)
    (frames : List Frame) : skipOpened (fuel + 1) frame frames s = skipClosing fuel frames r := by
  rw [skipOpened, h]
  exact if_pos rfl

theorem skipClosing_of_close {frame : Frame} (h : skipBlanks s = frame.close :: r) (fuel : Nat)
    (frames : List Frame) :
    skipClosing (fuel + 1) (frame :: frames) s = skipClosing fuel frames r := by
  rw [skipClosing, h]
  exact if_pos rfl

theorem skipOpened_of_item {frame : Frame} {c : Symbol} {rest : List Symbol}
    (h : skipBlanks s = c :: rest) (hc : c ≠ frame.close)
    (hitem : frame.itemValue (c :: rest) = .ok r) (fuel : Nat) (frames : List Frame) :
    skipOpened (fuel + 1) frame frames s = skipOpen fuel (frame :: frames) r := by
  rw [skipOpened, h]
  simp only [if_neg hc, hitem, ok_bind]

theorem skipClosing_of_item {frame : Frame} {rest : List Symbol}
    (h : skipBlanks s = .char ',' :: rest) (hitem : frame.itemValue rest = .ok r) (fuel : Nat)
    (frames : List Frame) :
    skipClosing (fuel + 1) (frame :: frames) s = skipOpen fuel (frame :: frames) r := by
  have hc : Symbol.char ',' ≠ frame.close := by cases frame <;> decide
  rw [skipClosing, h]
  simp only [if_neg hc, if_true, hitem, ok_bind]

theorem length_lt_of_skipBlanks {c : Symbol} (h : skipBlanks s = c :: r) : r.length < s.length := by
  have hle := length_skipBlanks_le s
  rw [h] at hle
  exact hle

theorem skipsOut_of_close {frame : Frame} (h : skipBlanks s = frame.close :: r) (first : Bool) :
    SkipsOut frame first s r := by
  have hlt := length_lt_of_skipBlanks h
  cases first with
  | true => exact .first ((leads_skipClosing r).step (by omega) (skipOpened_of_close h))
  | false => exact .later ((leads_skipClosing r).step (by omega) (skipClosing_of_close h))

/-- The item of a list. -/
theorem SkipsOut.item {first : Bool} {s' t : List Symbol} (hnext : nextItem first s = .ok (some s'))
    (hitem : Skips s' t) (hrest : SkipsOut .list false t r) : SkipsOut .list first s r := by
  unfold nextItem at hnext
  split at hnext
  · exact absurd hnext nofun
  · exact absurd hnext nofun
  · rename_i c rest hend hblanks
    have hlt := length_lt_of_skipBlanks hblanks
    cases first with
    | true =>
        obtain rfl := Option.some.inj (Except.ok.inj hnext)
        have hc : c ≠ Frame.list.close := hend
        refine .first ((hitem.andThen hrest).step ?_ (skipOpened_of_item hblanks hc rfl))
        rw [List.length_cons]
        omega
    | false =>
        rw [if_neg Bool.false_ne_true] at hnext
        split_ifs at hnext with hcomma
        subst hcomma
        split at hnext
        · exact absurd hnext nofun
        · exact absurd hnext nofun
        · obtain rfl := Option.some.inj (Except.ok.inj hnext)
          exact .later ((hitem.of_skipBlanks.andThen hrest).step (by omega)
            (skipClosing_of_item hblanks rfl))

theorem length_le_of_colon (h : colon s = .ok r) : r.length ≤ s.length := by
  have hle := length_skipBlanks_le s
  unfold colon at h
  split at h
  · exact absurd h nofun
  · rename_i rest hblanks
    obtain rfl := Except.ok.inj h
    rw [hblanks, List.length_cons] at hle
    omega
  · exact absurd h nofun

theorem itemValue_object {key : String} {s₁ s₂ : List Symbol}
    (hblanks : skipBlanks s = .char '"' :: s₁) (hkey : string s₁ = .ok (key, s₂))
    (hcolon : colon s₂ = .ok r) : Frame.object.itemValue s = .ok r := by
  rw [Frame.itemValue, hblanks]
  show (skipString 0 s₁ >>= _) = _
  rw [skipString_of_string hkey]
  exact hcolon

/-- The first key stands where the object begins, and every later one behind a comma. -/
theorem nextKey_cases {first : Bool} (h : nextKey first s = .ok r) :
    first = true ∧ s = .char '"' :: r
      ∨ first = false ∧ ∃ rest, s = .char ',' :: rest ∧ skipBlanks rest = .char '"' :: r := by
  unfold nextKey at h
  split at h
  · split_ifs at h with hfirst
    obtain rfl := Except.ok.inj h
    exact .inl ⟨hfirst, rfl⟩
  · split_ifs at h with hfirst
    split at h
    · exact absurd h nofun
    · rename_i rest _ key hblanks
      obtain rfl := Except.ok.inj h
      exact .inr ⟨Bool.eq_false_iff.2 hfirst, rest, rfl, hblanks⟩
    · exact absurd h nofun
    · exact absurd h nofun
  · exact absurd h nofun

/-- The entry of an object. -/
theorem SkipsOut.entry {first : Bool} {key : String} {s₁ s₂ s₃ t : List Symbol}
    (hnext : nextKey first (skipBlanks s) = .ok s₁) (hkey : string s₁ = .ok (key, s₂))
    (hcolon : colon s₂ = .ok s₃) (hvalue : Skips s₃ t) (hrest : SkipsOut .object false t r) :
    SkipsOut .object first s r := by
  have hlt := length_lt_of_skipString (skipString_of_string hkey)
  have hle := length_le_of_colon hcolon
  obtain ⟨rfl, hblanks⟩ | ⟨rfl, rest, hblanks, hquote⟩ := nextKey_cases hnext
  · have hlt' := length_lt_of_skipBlanks hblanks
    have hitem := itemValue_object (s := .char '"' :: s₁) rfl hkey hcolon
    exact .first ((hvalue.andThen hrest).step (by omega)
      (skipOpened_of_item hblanks (by decide) hitem))
  · have hlt' := length_lt_of_skipBlanks hblanks
    have hlt'' := length_lt_of_skipBlanks hquote
    have hitem := itemValue_object hquote hkey hcolon
    exact .later ((hvalue.andThen hrest).step (by omega) (skipClosing_of_item hblanks hitem))

/-! ## Lists and objects -/

theorem skipOpen_list (h : skipBlanks s = .char '[' :: r) (fuel : Nat) (frames : List Frame) :
    skipOpen (fuel + 1) frames s = skipOpened fuel .list frames r := by
  rw [skipOpen, h]
  rfl

theorem skipOpen_object (h : skipBlanks s = .char '\x7b' :: r) (fuel : Nat)
    (frames : List Frame) : skipOpen (fuel + 1) frames s = skipOpened fuel .object frames r := by
  rw [skipOpen, h]
  rfl

theorem SkipsOut.opened {frame : Frame} {rest : List Symbol} (hlt : rest.length < s.length)
    (hopened : ∀ fuel frames, skipOpen (fuel + 1) frames s = skipOpened fuel frame frames rest)
    (h : SkipsOut frame true rest r) : Skips s r := by
  cases h with
  | first h => exact h.step (by omega) hopened

theorem skipBlanks_of_closeList (h : closeList s = .ok r) : skipBlanks s = .char ']' :: r := by
  unfold closeList at h
  split at h
  · exact absurd h nofun
  · rename_i rest hblanks
    obtain rfl := Except.ok.inj h
    exact hblanks
  · split at h
    · exact absurd h nofun
    · exact absurd h nofun
  · exact absurd h nofun

theorem skipBlanks_of_nextItem_none {first : Bool} (h : nextItem first s = .ok none) :
    ∃ rest, skipBlanks s = .char ']' :: rest := by
  unfold nextItem at h
  split at h
  · exact absurd h nofun
  · rename_i rest hblanks
    exact ⟨rest, hblanks⟩
  · split_ifs at h
    · exact absurd (Except.ok.inj h) nofun
    · split at h
      · exact absurd h nofun
      · exact absurd h nofun
      · exact absurd (Except.ok.inj h) nofun

theorem length_le_of_nextItem (h : nextItem true s = .ok (some r)) : r.length ≤ s.length := by
  have hle := length_skipBlanks_le s
  unfold nextItem at h
  split at h
  · exact absurd h nofun
  · exact absurd h nofun
  · rename_i hblanks
    obtain rfl := Option.some.inj (Except.ok.inj h)
    exact hblanks ▸ hle

theorem skipsOut_of_items {α : Type} {item : List Symbol → Except Fault (Parsed α)}
    (hitem : ∀ {s a t}, item s = .ok (a, t) → Skips s t) {fuel : Nat} {first : Bool} {as : List α}
    {t : List Symbol} (h : items item fuel first s = .ok (as, t)) (hend : closeList t = .ok r) :
    SkipsOut .list first s r := by
  induction fuel generalizing first s as t with
  | zero => exact absurd h nofun
  | succ fuel ih =>
      rw [items] at h
      obtain ⟨next, hnext, h⟩ := exists_of_bind_eq_ok h
      cases next with
      | none =>
          obtain ⟨-, rfl⟩ := Prod.mk.inj (Except.ok.inj h)
          exact skipsOut_of_close (skipBlanks_of_closeList hend) first
      | some s' =>
          obtain ⟨⟨a, t'⟩, ha, h⟩ := exists_of_bind_eq_ok h
          obtain ⟨⟨as', t''⟩, hrest, h⟩ := exists_of_bind_eq_ok h
          obtain ⟨-, rfl⟩ := Prod.mk.inj (Except.ok.inj h)
          exact .item hnext (hitem ha) (ih hrest hend)

/-- **Lists** end where they are skipped to. -/
theorem Skips.list {α : Type} {item : List Symbol → Except Fault (Parsed α)}
    (hitem : ∀ {s a t}, item s = .ok (a, t) → Skips s t) {rest : List Symbol} {as : List α}
    (hblanks : skipBlanks s = .char '[' :: rest) (h : Reader.list item rest = .ok (as, r)) :
    Skips s r := by
  obtain ⟨⟨as', t⟩, hitems, h⟩ := exists_of_bind_eq_ok h
  obtain ⟨r', hend, h⟩ := exists_of_bind_eq_ok h
  obtain ⟨-, rfl⟩ := Prod.mk.inj (Except.ok.inj h)
  exact (skipsOut_of_items hitem hitems hend).opened (length_lt_of_skipBlanks hblanks)
    (skipOpen_list hblanks)

theorem skipsOut_of_entries {σ : Type} {step : String → σ → List Symbol → Except Fault (Parsed σ)}
    (hstep : ∀ {key g s g' t}, step key g s = .ok (g', t) → ∃ s', colon s = .ok s' ∧ Skips s' t)
    {fuel : Nat} {first : Bool} {g g' : σ} (h : entries step fuel first g s = .ok (g', r)) :
    SkipsOut .object first s r := by
  induction fuel generalizing first s g with
  | zero => exact absurd h nofun
  | succ fuel ih =>
      rw [entries] at h
      split at h
      · exact absurd h nofun
      · rename_i hblanks
        obtain ⟨-, rfl⟩ := Prod.mk.inj (Except.ok.inj h)
        exact skipsOut_of_close hblanks first
      · obtain ⟨s₁, hnext, h⟩ := exists_of_bind_eq_ok h
        obtain ⟨⟨key, s₂⟩, hkey, h⟩ := exists_of_bind_eq_ok h
        obtain ⟨⟨g₁, t⟩, hvalue, h⟩ := exists_of_bind_eq_ok h
        obtain ⟨s₃, hcolon, hskips⟩ := hstep hvalue
        exact .entry hnext hkey hcolon hskips (ih h)

/-- **Objects** end where they are skipped to. -/
theorem Skips.object {σ : Type} {step : String → σ → List Symbol → Except Fault (Parsed σ)}
    (hstep : ∀ {key g s g' t}, step key g s = .ok (g', t) → ∃ s', colon s = .ok s' ∧ Skips s' t)
    {rest : List Symbol} {start g : σ} (hblanks : skipBlanks s = .char '\x7b' :: rest)
    (h : Reader.object step start rest = .ok (g, r)) : Skips s r :=
  (skipsOut_of_entries hstep h).opened (length_lt_of_skipBlanks hblanks)
    (skipOpen_object hblanks)

/-! ## Skipped values -/

theorem length_le_of_itemValue {frame : Frame} (h : frame.itemValue s = .ok r) :
    r.length ≤ s.length := by
  cases frame with
  | list =>
      obtain rfl := Except.ok.inj h
      exact Nat.le_refl _
  | object =>
      unfold Frame.itemValue at h
      simp only at h
      split at h
      · exact absurd h nofun
      · rename_i rest hblanks
        obtain ⟨s', hskip, h⟩ := exists_of_bind_eq_ok h
        have hlt := length_lt_of_skipBlanks hblanks
        have hlt' := length_lt_of_skipString hskip
        have hle := length_le_of_colon h
        omega
      · exact absurd h nofun

/-- The loop does to the frames it starts with what it does with more frames below them. -/
theorem leads_of_skipped (n : Nat) (inner : List Frame) (s r : List Symbol) :
    (skipOpen n inner s = .ok r →
        Leads (2 * s.length) (fun fuel frames => skipOpen fuel (inner ++ frames) s) r)
      ∧ (∀ frame, skipOpened n frame inner s = .ok r →
        Leads (2 * s.length + 1) (fun fuel frames => skipOpened fuel frame (inner ++ frames) s) r)
      ∧ (skipClosing n inner s = .ok r →
        Leads (2 * s.length) (fun fuel frames => skipClosing fuel (inner ++ frames) s) r) := by
  induction n generalizing inner s with
  | zero =>
      refine ⟨fun h => absurd h nofun, fun frame h => absurd h nofun, fun h => ?_⟩
      cases inner with
      | nil =>
          rw [skipClosing_nil] at h
          obtain rfl := Except.ok.inj h
          exact leads_skipClosing s
      | cons frame inner => exact absurd h nofun
  | succ n ih =>
      -- Each round hands over to one of the three with less fuel and less input.
      refine ⟨fun h => ?value, fun frame h => ?first, fun h => ?later⟩
      case value =>
        rw [skipOpen] at h
        split at h
        · rename_i hblanks
          have hlt := length_lt_of_skipBlanks hblanks
          exact ((ih inner _).2.1 .list h).step (by omega)
            fun fuel frames => skipOpen_list hblanks fuel _
        · rename_i hblanks
          have hlt := length_lt_of_skipBlanks hblanks
          exact ((ih inner _).2.1 .object h).step (by omega)
            fun fuel frames => skipOpen_object hblanks fuel _
        · obtain ⟨s', hscalar, h⟩ := exists_of_bind_eq_ok h
          have hlt := length_lt_of_skipScalar_skipBlanks hscalar
          exact ((ih inner s').2.2 h).step (by omega)
            fun fuel frames => skipOpen_scalar hscalar fuel _
      case first =>
        rw [skipOpened] at h
        split at h
        · exact absurd h nofun
        · rename_i c rest hblanks
          have hlt := length_lt_of_skipBlanks hblanks
          split_ifs at h with hclose
          · subst hclose
            exact ((ih inner rest).2.2 h).step (by omega)
              fun fuel frames => skipOpened_of_close hblanks fuel _
          · obtain ⟨s', hitem, h⟩ := exists_of_bind_eq_ok h
            have hle := length_le_of_itemValue hitem
            rw [List.length_cons] at hle
            exact ((ih (frame :: inner) s').1 h).step (by omega)
              fun fuel frames => skipOpened_of_item hblanks hclose hitem fuel _
      case later =>
        cases inner with
        | nil =>
            rw [skipClosing_nil] at h
            obtain rfl := Except.ok.inj h
            exact leads_skipClosing s
        | cons frame inner =>
            rw [skipClosing] at h
            split at h
            · exact absurd h nofun
            · rename_i c rest hblanks
              have hlt := length_lt_of_skipBlanks hblanks
              split_ifs at h with hclose hcomma
              · subst hclose
                exact ((ih inner rest).2.2 h).step (by omega)
                  fun fuel frames => skipClosing_of_close hblanks fuel _
              · subst hcomma
                obtain ⟨s', hitem, h⟩ := exists_of_bind_eq_ok h
                have hle := length_le_of_itemValue hitem
                exact ((ih (frame :: inner) s').1 h).step (by omega)
                  fun fuel frames => skipClosing_of_item hblanks hitem fuel _

/-- **Skipping a value** is skipping it whatever is open around it. -/
theorem skipValue_eq_ok_iff : skipValue s = .ok r ↔ Skips s r :=
  ⟨(leads_of_skipped _ [] s r).1, Skips.skipValue⟩

end ComponentSpec.Json.Reader
