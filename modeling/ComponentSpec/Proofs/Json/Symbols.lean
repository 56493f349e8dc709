import ComponentSpec.Proofs.Json.Lexeme

set_option autoImplicit false

/-! # The text of a value

`Within n` holds of the values that codecs write: no doubles, numbers of at most 64 bits, and lists
and objects nested at most `n` deep. `symbols` is the text of a value without blanks; it is taken
apart here by its first character, which decides how a reader goes on (`Within.exists_opens`), and,
for lists and objects, by the commas between the items (`symbols_array`, `symbols_object`). -/

namespace ComponentSpec.Json

open Reader (Parsed)

/-- The symbols of a value that is written without blanks. -/
def symbols (j : Json) : List Symbol :=
  Symbol.ofChars j.compact

/-- A value without doubles, with numbers of at most 64 bits, and with at most `n` lists and
objects inside each other. -/
inductive Within : Nat → Json → Prop where
  | null {n : Nat} : Within n .null
  | bool {n : Nat} (b : Bool) : Within n (.bool b)
  | integer {n k : Nat} (h : k < UInt64.size) : Within n (.integer k)
  | string {n : Nat} (s : String) : Within n (.string s)
  | array {n : Nat} {js : List Json} (h : ∀ j ∈ js, Within n j) : Within (n + 1) (.array js)
  | object {n : Nat} {es : List (String × Json)} (h : ∀ e ∈ es, Within n e.2) :
    Within (n + 1) (.object es)

/-- Scalars nest nothing. -/
theorem Within.of_zero {n : Nat} {j : Json} (h : j.Within 0) : j.Within n := by
  cases h with
  | null => exact .null
  | bool b => exact .bool b
  | integer h => exact .integer h
  | string s => exact .string s

/-- The reader takes the value for `a` and stops where it ends. -/
def Reads {α : Type} (read : List Symbol → Except Fault (Parsed α)) (j : Json) (a : α) : Prop :=
  ∀ s, Follows s → read (j.symbols ++ s) = .ok (a, s)

/-! ## Texts of lists and objects -/

theorem compactItems_cons (j : Json) (js : List Json) :
    compactItems (j :: js) = j.compact ++ js.flatMap fun j => ',' :: j.compact := by
  induction js generalizing j with
  | nil => simp [compactItems]
  | cons k js ih => simp [compactItems, ih]

theorem compactEntries_cons (e : String × Json) (es : List (String × Json)) :
    compactEntries (e :: es)
      = quoted e.1 ++ ':' :: (e.2.compact
          ++ es.flatMap fun e => ',' :: (quoted e.1 ++ ':' :: e.2.compact)) := by
  induction es generalizing e with
  | nil => simp [compactEntries]
  | cons k es ih => simp [compactEntries, ih]

/-- The symbols of an entry. -/
def entrySymbols (e : String × Json) : List Symbol :=
  Symbol.ofChars (quoted e.1) ++ .char ':' :: e.2.symbols

/-- The symbols of a list from behind its opening bracket. -/
def listBody : List Json → List Symbol
  | [] => [.char ']']
  | j :: js => j.symbols ++ (js.flatMap (fun j => .char ',' :: j.symbols) ++ [.char ']'])

/-- The symbols of an object from behind its opening bracket. -/
def objectBody : List (String × Json) → List Symbol
  | [] => [.char '\x7d']
  | e :: es =>
    entrySymbols e ++ (es.flatMap (fun e => .char ',' :: entrySymbols e) ++ [.char '\x7d'])

theorem ofChars_flatMap {α : Type} (as : List α) (f : α → List Char) :
    Symbol.ofChars (as.flatMap f) = as.flatMap fun a => Symbol.ofChars (f a) :=
  List.map_flatMap ..

theorem symbols_array (js : List Json) : (array js).symbols = .char '[' :: listBody js := by
  cases js with
  | nil => rfl
  | cons j js => simp [symbols, compact, compactItems_cons, listBody, ofChars_flatMap]

theorem symbols_object (es : List (String × Json)) :
    (object es).symbols = .char '\x7b' :: objectBody es := by
  cases es with
  | nil => rfl
  | cons e es =>
      simp [symbols, compact, compactEntries_cons, objectBody, entrySymbols, ofChars_flatMap]

/-- Behind a part of a list or an object a comma follows, or what follows its parts. -/
theorem follows_later {β : Type} (bs : List β) (g : β → List Symbol) {s : List Symbol}
    (hs : Follows s) : Follows (bs.flatMap (fun b => .char ',' :: g b) ++ s) := by
  cases bs with
  | nil => exact hs
  | cons b bs => exact .comma _

/-- There are no more parts than symbols. -/
theorem length_le_length_later {β : Type} (bs : List β) (g : β → List Symbol) :
    bs.length ≤ (bs.flatMap fun b => .char ',' :: g b).length := by
  induction bs with
  | nil => exact Nat.le_refl 0
  | cons b bs ih =>
      rw [List.flatMap_cons, List.length_append, List.length_cons, List.length_cons]
      omega

/-! ## How a value begins -/

/-- What the first character of a value says about it. -/
structure Opens (j : Json) (c : Char) : Prop where
  not_blank : Reader.isBlank (.char c) = false
  ne_listEnd : c ≠ ']'
  eq_null : c = 'n' → j = .null
  not_scalar : c = '[' ∨ c = '\x7b' → ¬ j.Within 0

/-- No blank, and no character that says more about a value. -/
def OpensAny (c : Char) : Prop :=
  Reader.isBlank (.char c) = false ∧ c ≠ ']' ∧ c ≠ 'n' ∧ c ≠ '[' ∧ c ≠ '\x7b'
  deriving Decidable

theorem OpensAny.opens {c : Char} (h : OpensAny c) (j : Json) : Opens j c := by
  obtain ⟨hblank, hend, hnull, hlist, hobject⟩ := h
  exact ⟨hblank, hend, fun h => absurd h hnull,
    fun h => h.elim (fun h => absurd h hlist) fun h => absurd h hobject⟩

theorem opensAny_digit {d : Nat} (h : d < 10) : OpensAny (Decimal.digit d) := by
  revert d
  decide

theorem Within.exists_opens {n : Nat} {j : Json} (h : j.Within n) :
    ∃ c t, j.symbols = .char c :: t ∧ Opens j c := by
  cases h with
  | null => exact ⟨'n', _, rfl, by decide, by decide, fun _ => rfl, fun h => absurd h (by decide)⟩
  | bool b =>
      cases b with
      | true => exact ⟨'t', _, rfl, OpensAny.opens (by decide) _⟩
      | false => exact ⟨'f', _, rfl, OpensAny.opens (by decide) _⟩
  | @integer _ k _ =>
      obtain ⟨d, cs, hd, hcs⟩ := Decimal.exists_ofNat_eq_cons k
      exact ⟨Decimal.digit d, Symbol.ofChars cs, congrArg Symbol.ofChars hcs,
        (opensAny_digit hd).opens _⟩
  | string s => exact ⟨'"', _, rfl, OpensAny.opens (by decide) _⟩
  | array h => exact ⟨'[', _, symbols_array _, by decide, by decide, nofun, fun _ => nofun⟩
  | object h => exact ⟨'\x7b', _, symbols_object _, by decide, by decide, nofun, fun _ => nofun⟩

theorem Within.skipBlanks {n : Nat} {j : Json} (h : j.Within n) (s : List Symbol) :
    Reader.skipBlanks (j.symbols ++ s) = j.symbols ++ s := by
  obtain ⟨c, t, hsymbols, hopens⟩ := h.exists_opens
  rw [hsymbols, List.cons_append, Reader.skipBlanks, List.dropWhile_cons_of_neg]
  rw [hopens.not_blank]
  exact Bool.false_ne_true

end ComponentSpec.Json
