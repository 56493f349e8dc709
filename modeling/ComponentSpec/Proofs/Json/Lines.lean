import ComponentSpec.Proofs.Json.Symbols

set_option autoImplicit false

/-! # The text over lines holds the compact one

The two spellings of a value differ in the blanks between its tokens. A text is tightened by
dropping these blanks, where what stands between quotes is left as it is, and tightening what was
written over lines gives the compact text (`tightens_pretty`). So the lines of a value hold no less
than its compact text does. -/

namespace ComponentSpec.Json

open ComponentSpec.Text (hexDigit hexPadded)

/-! ## Tightening -/

/-- Where a character of a text stands. -/
inductive Standing where
  | betweenTokens
  | inQuotes
  /-- Behind the backslash of an escape. -/
  | escaped

/-- The text without the blanks between its tokens. -/
def tighten : Standing → List Char → List Char
  | _, [] => []
  | .betweenTokens, c :: cs =>
    if c = ' ' ∨ c = '\n' then tighten .betweenTokens cs
    else c :: tighten (if c = '"' then .inQuotes else .betweenTokens) cs
  | .inQuotes, c :: cs =>
    c :: tighten (if c = '"' then .betweenTokens else if c = '\\' then .escaped else .inQuotes) cs
  | .escaped, c :: cs => c :: tighten .inQuotes cs

/-- Neither a blank nor a quote. -/
def isBare (c : Char) : Bool :=
  c ≠ ' ' ∧ c ≠ '\n' ∧ c ≠ '"'

/-- Between tokens, the one text is tightened to the other. -/
def Tightens (loose tight : List Char) : Prop :=
  ∀ rest, tighten .betweenTokens (loose ++ rest) = tight ++ tighten .betweenTokens rest

namespace Tightens

theorem nil : Tightens [] [] :=
  fun _ => rfl

theorem append {loose tight loose' tight' : List Char} (h : Tightens loose tight)
    (h' : Tightens loose' tight') : Tightens (loose ++ loose') (tight ++ tight') := by
  intro rest
  rw [List.append_assoc, h, h', List.append_assoc]

/-- What has neither blanks nor quotes stays. -/
theorem bare (cs : List Char) (h : cs.all isBare = true) : Tightens cs cs := by
  intro rest
  induction cs with
  | nil => rfl
  | cons c cs ih =>
      rw [List.all_cons, Bool.and_eq_true] at h
      obtain ⟨hc, hcs⟩ := h
      obtain ⟨hspace, hbreak, hquote⟩ := of_decide_eq_true hc
      rw [List.cons_append, tighten, if_neg (not_or.2 ⟨hspace, hbreak⟩), if_neg hquote, ih hcs]
      rfl

theorem cons {c : Char} {loose tight : List Char} (hc : isBare c = true)
    (h : Tightens loose tight) : Tightens (c :: loose) (c :: tight) :=
  (bare [c] (by rw [List.all_cons, hc]; rfl)).append h

theorem newLine (level : Nat) : Tightens (newLine level) [] := by
  intro rest
  have hspaces : ∀ n, tighten .betweenTokens (List.replicate n ' ' ++ rest)
      = tighten .betweenTokens rest := by
    intro n
    induction n with
    | zero => rfl
    | succ n ih =>
        rw [List.replicate_succ, List.cons_append, tighten, if_pos (.inl rfl), ih]
  rw [Json.newLine, List.cons_append, tighten, if_pos (.inr rfl), hspaces]
  rfl

end Tightens

/-! ## Texts in quotes -/

theorem tighten_inQuotes_of_plain {cs : List Char} (h : ∀ c ∈ cs, c ≠ '"' ∧ c ≠ '\\')
    (rest : List Char) : tighten .inQuotes (cs ++ rest) = cs ++ tighten .inQuotes rest := by
  induction cs with
  | nil => rfl
  | cons c cs ih =>
      rw [List.forall_mem_cons] at h
      obtain ⟨⟨hquote, hslash⟩, hcs⟩ := h
      rw [List.cons_append, tighten, if_neg hquote, if_neg hslash, ih hcs]
      rfl

theorem hexDigit_plain : ∀ d < 16, hexDigit d ≠ '"' ∧ hexDigit d ≠ '\\' := by
  decide

theorem hexPadded_plain (width n : Nat) : ∀ c ∈ hexPadded width n, c ≠ '"' ∧ c ≠ '\\' := by
  intro c hc
  obtain ⟨d, hd, rfl⟩ := Text.mem_lowerHexDigits_iff.1 (Text.mem_lowerHexDigits_of_mem_hexPadded hc)
  exact hexDigit_plain d hd

/-- No escape ends the quotes. -/
theorem tighten_escapeChar (c : Char) (rest : List Char) :
    tighten .inQuotes (escapeChar c ++ rest) = escapeChar c ++ tighten .inQuotes rest := by
  unfold escapeChar
  split_ifs with hquote hslash hb hf hn hr ht hcontrol
  · rfl
  · rfl
  · rfl
  · rfl
  · rfl
  · rfl
  · rfl
  · show '\\' :: 'u' :: tighten .inQuotes (hexPadded 4 c.toNat ++ rest) = _
    rw [tighten_inQuotes_of_plain (hexPadded_plain 4 c.toNat)]
    rfl
  · exact tighten_inQuotes_of_plain (List.forall_mem_singleton.2 ⟨hquote, hslash⟩) rest

/-- A text in quotes keeps its blanks. -/
theorem tightens_quoted (s : String) : Tightens (quoted s) (quoted s) := by
  intro rest
  have hbody : ∀ cs : List Char,
      tighten .inQuotes (cs.flatMap escapeChar ++ '"' :: rest)
        = cs.flatMap escapeChar ++ '"' :: tighten .betweenTokens rest := by
    intro cs
    induction cs with
    | nil => rfl
    | cons c cs ih =>
        rw [List.flatMap_cons, List.append_assoc, tighten_escapeChar, ih, List.append_assoc]
  simp only [quoted, List.cons_append, List.append_assoc, List.nil_append]
  exact congrArg ('"' :: ·) (hbody s.toList)

/-! ## Whole values -/

namespace Tightens

theorem ofInt (k : Nat) : Tightens (Decimal.ofInt k) (Decimal.ofInt k) := by
  have hdigit : ∀ d < 10, isBare (Decimal.digit d) = true := by
    decide
  refine bare _ (List.all_eq_true.2 (List.forall_mem_map.2 fun d hd => ?_))
  exact hdigit d (Decimal.lt_ten_of_mem_digits hd)

/-- A value on a line of its own. -/
theorem line {loose tight : List Char} (level : Nat) (h : Tightens loose tight) :
    Tightens (Json.newLine level ++ loose) tight :=
  (newLine level).append h

/-- An entry on a line of its own, with a blank behind the colon. -/
theorem entry {loose tight : List Char} (level : Nat) (key : String) (h : Tightens loose tight) :
    Tightens (Json.newLine level ++ quoted key ++ ':' :: ' ' :: loose)
      (quoted key ++ ':' :: tight) := by
  have hblank : Tightens (' ' :: loose) tight := h
  exact ((tightens_quoted key).line level).append (hblank.cons (by decide))

theorem items {level : Nat} {js : List Json}
    (h : ∀ j ∈ js, Tightens (j.pretty level) j.compact) :
    Tightens (prettyItems level js) (compactItems js) := by
  induction js with
  | nil => exact nil
  | cons j js ih =>
      rw [List.forall_mem_cons] at h
      cases js with
      | nil => exact h.1.line level
      | cons k js => exact (h.1.line level).append ((ih h.2).cons (by decide))

theorem entries {level : Nat} {es : List (String × Json)}
    (h : ∀ e ∈ es, Tightens (e.2.pretty level) e.2.compact) :
    Tightens (prettyEntries level es) (compactEntries es) := by
  induction es with
  | nil => exact nil
  | cons e es ih =>
      rw [List.forall_mem_cons] at h
      cases es with
      | nil => exact h.1.entry level e.1
      | cons e' es =>
          have hrest := h.1.append ((ih h.2).cons (c := ',') (by decide))
          exact hrest.entry level e.1

/-- The closing bracket stands on a line of its own. -/
theorem bracketed {loose tight : List Char} {opening closing : Char} (level : Nat)
    (hopening : isBare opening = true) (hclosing : isBare closing = true)
    (h : Tightens loose tight) :
    Tightens (opening :: loose ++ Json.newLine level ++ [closing])
      (opening :: tight ++ [closing]) := by
  have hclose : Tightens (Json.newLine level ++ [closing]) [closing] :=
    (nil.cons hclosing).line level
  rw [List.append_assoc]
  exact (h.cons hopening).append hclose

end Tightens

/-- **Tightening what was written over lines gives the compact text.** -/
theorem tightens_pretty {n : Nat} {j : Json} (h : j.Within n) (level : Nat) :
    Tightens (j.pretty level) j.compact := by
  induction h generalizing level with
  | null => exact .bare "null".toList (by decide)
  | bool b =>
      cases b with
      | true => exact .bare "true".toList (by decide)
      | false => exact .bare "false".toList (by decide)
  | integer h => exact .ofInt _
  | string s => exact tightens_quoted s
  | @array n js h ih =>
      cases js with
      | nil => exact .bare ['[', ']'] (by decide)
      | cons j js =>
          exact (Tightens.items fun j hj => ih j hj (level + 1)).bracketed level
            (by decide) (by decide)
  | @object n es h ih =>
      cases es with
      | nil => exact .bare ['\x7b', '\x7d'] (by decide)
      | cons e es =>
          exact (Tightens.entries fun e he => ih e he (level + 1)).bracketed level
            (by decide) (by decide)

theorem tighten_pretty {n : Nat} {j : Json} (h : j.Within n) :
    tighten .betweenTokens (j.pretty 0) = j.compact := by
  have htight := tightens_pretty h 0 []
  rwa [List.append_nil, tighten, List.append_nil] at htight

end ComponentSpec.Json
