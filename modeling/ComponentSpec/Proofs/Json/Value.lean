import ComponentSpec.Proofs.Json.Symbols
import Mathlib.Tactic.IntervalCases

set_option autoImplicit false

/-! # Written values read back

A value is read back from its text by any reader that may open as many lists and objects as the
value nests (`Reader.value_reads`). The loops over the contents of lists and objects take readers of
items and keys, so what is proved of them here serves the typed readers as well: `list_reads` for
lists, and for objects `object_reads`, where `Gathers` tells what the entries add up to. -/

namespace ComponentSpec.Json

open Reader (Parsed)

/-! ## What entries add up to -/

/-- A run of entries takes what has been gathered from the one to the other, where `R` says what
one entry does. -/
inductive Gathers {ε σ : Type} (R : ε → σ → σ → Prop) : List ε → σ → σ → Prop where
  | nil (g : σ) : Gathers R [] g g
  | cons {e : ε} {es : List ε} {g g' g'' : σ} (h : R e g g') (hs : Gathers R es g' g'') :
    Gathers R (e :: es) g g''

namespace Gathers

variable {ε σ τ : Type} {R : ε → σ → σ → Prop} {es : List ε} {g g' : σ}

theorem map {S : ε → τ → τ → Prop} (into : σ → τ)
    (hRS : ∀ e ∈ es, ∀ g g', R e g g' → S e (into g) (into g')) (h : Gathers R es g g') :
    Gathers S es (into g) (into g') := by
  induction h with
  | nil g => exact .nil _
  | cons h _ ih =>
      rw [List.forall_mem_cons] at hRS
      exact .cons (hRS.1 _ _ h) (ih hRS.2)

theorem imp {S : ε → σ → σ → Prop} (hRS : ∀ e g g', R e g g' → S e g g') (h : Gathers R es g g') :
    Gathers S es g g' :=
  h.map id fun e _ => hRS e

theorem foldlM_eq {step : σ → ε → Except Fault σ}
    (h : Gathers (fun e g g' => step g e = .ok g') es g g') : es.foldlM step g = .ok g' := by
  induction h with
  | nil g => rfl
  | cons h _ ih => rw [List.foldlM_cons, h, Reader.ok_bind, ih]

/-- Entries that are kept as they are. -/
theorem append (es g : List ε) : Gathers (fun e g g' => g' = g ++ [e]) es g (g ++ es) := by
  induction es generalizing g with
  | nil =>
      rw [List.append_nil]
      exact .nil g
  | cons e es ih =>
      have hrest := ih (g ++ [e])
      rw [List.append_assoc, List.singleton_append] at hrest
      exact .cons rfl hrest

end Gathers

namespace Reader

/-! ## Lists -/

section

variable {α : Type} {item : List Symbol → Except Fault (Parsed α)} {f : α → Json} {n : Nat}

theorem nextItem_true {s t : List Symbol} {c : Char} (hs : skipBlanks s = .char c :: t)
    (hc : c ≠ ']') : nextItem true s = .ok (some (.char c :: t)) := by
  rw [nextItem, hs]
  split
  · rename_i heq
    exact absurd heq (by simp)
  · rename_i heq
    exact absurd (Symbol.char.inj (List.cons.inj heq).1) hc
  · rename_i heq
    rw [if_pos rfl, ← heq]

theorem nextItem_comma {s t : List Symbol} {c : Char} (hs : skipBlanks s = .char c :: t)
    (hc : c ≠ ']') : nextItem false (.char ',' :: s) = .ok (some (.char c :: t)) := by
  have hcomma : skipBlanks (.char ',' :: s) = .char ',' :: s := rfl
  rw [nextItem, hcomma]
  split
  · rename_i heq
    exact absurd heq (by simp)
  · rename_i heq
    exact absurd (Symbol.char.inj (List.cons.inj heq).1) (by decide)
  · rename_i heq
    obtain ⟨rfl, rfl⟩ := List.cons.inj heq
    rw [if_neg Bool.false_ne_true, if_pos rfl, hs]
    -- What follows the comma is no closing bracket either.
    split
    · rename_i heq
      exact absurd heq (by simp)
    · rename_i heq
      exact absurd (Symbol.char.inj (List.cons.inj heq).1) hc
    · rfl

/-- Every item is found, the first as it is and each later one behind its comma. -/
theorem nextItem_symbols {j : Json} (h : j.Within n) (s : List Symbol) :
    nextItem true (j.symbols ++ s) = .ok (some (j.symbols ++ s))
      ∧ nextItem false (.char ',' :: (j.symbols ++ s)) = .ok (some (j.symbols ++ s)) := by
  obtain ⟨c, t, hsymbols, hopens⟩ := h.exists_opens
  have hskip := h.skipBlanks s
  rw [hsymbols, List.cons_append] at hskip ⊢
  exact ⟨nextItem_true hskip hopens.ne_listEnd, nextItem_comma hskip hopens.ne_listEnd⟩

theorem items_later {as : List α} (hw : ∀ a ∈ as, (f a).Within n)
    (hr : ∀ a ∈ as, Reads item (f a) a) {fuel : Nat} (hfuel : as.length < fuel) (s : List Symbol) :
    items item fuel false
        ((as.map f).flatMap (fun j => .char ',' :: j.symbols) ++ .char ']' :: s)
      = .ok (as, .char ']' :: s) := by
  induction as generalizing fuel with
  | nil =>
      cases fuel with
      | zero => exact absurd hfuel (by simp)
      | succ fuel => rfl
  | cons a as ih =>
      cases fuel with
      | zero => exact absurd hfuel (by simp)
      | succ fuel =>
          rw [List.forall_mem_cons] at hw hr
          rw [List.map_cons, List.flatMap_cons, List.append_assoc, List.cons_append, items,
            (nextItem_symbols hw.1 _).2, ok_bind]
          simp only [hr.1 _ (follows_later _ _ (.listEnd s)), ok_bind,
            ih hw.2 hr.2 (Nat.lt_of_succ_lt_succ hfuel)]

/-- **A written list is read back item by item.** -/
theorem list_reads {as : List α} (hw : ∀ a ∈ as, (f a).Within n)
    (hr : ∀ a ∈ as, Reads item (f a) a) (s : List Symbol) :
    list item (listBody (as.map f) ++ s) = .ok (as, s) := by
  cases as with
  | nil => rfl
  | cons a as =>
      rw [List.forall_mem_cons] at hw hr
      have hbody : listBody ((a :: as).map f) ++ s = (f a).symbols
          ++ ((as.map f).flatMap (fun j => .char ',' :: j.symbols) ++ .char ']' :: s) := by
        simp [listBody]
      have hfuel : as.length < (listBody ((a :: as).map f) ++ s).length := by
        have hle := length_le_length_later (as.map f) symbols
        rw [List.length_map] at hle
        rw [hbody, List.length_append, List.length_append, List.length_cons]
        omega
      rw [list, items, hbody, (nextItem_symbols hw.1 _).1, ok_bind]
      rw [hbody] at hfuel
      simp only [hr.1 _ (follows_later _ _ (.listEnd s)), ok_bind, items_later hw.2 hr.2 hfuel]
      rfl

end

/-! ## Objects -/

section

variable {σ : Type} {step : String → σ → List Symbol → Except Fault (Parsed σ)}

/-- The reader of entries, from behind the key of this one, takes it and changes what has been
gathered from the one to the other. -/
def Takes (step : String → σ → List Symbol → Except Fault (Parsed σ)) (e : String × Json)
    (g g' : σ) : Prop :=
  ∀ s, Follows s → step e.1 g (.char ':' :: (e.2.symbols ++ s)) = .ok (g', s)

/-- A step that keeps every entry as it is. -/
theorem gathers_kept {step : String → List (String × Json) → List Symbol →
    Except Fault (Parsed (List (String × Json)))} {es : List (String × Json)}
    (h : ∀ e ∈ es, ∀ g, Takes step e g (g ++ [e])) : Gathers (Takes step) es [] es := by
  refine (Gathers.append es []).map id fun e he g g' hg => ?_
  rw [hg]
  exact h e he g

theorem colon_cons (s : List Symbol) : colon (.char ':' :: s) = .ok s :=
  rfl

/-- The first entry of an object, and with a comma before it every later one, is read by its
step. -/
theorem entries_succ {e : String × Json} {g g' : σ} (h : Takes step e g g') (fuel : Nat)
    {s : List Symbol} (hs : Follows s) :
    entries step (fuel + 1) true g (entrySymbols e ++ s) = entries step fuel false g' s
      ∧ entries step (fuel + 1) false g (.char ',' :: (entrySymbols e ++ s))
        = entries step fuel false g' s := by
  obtain ⟨body, hbody, hstring⟩ := string_quoted e.1 (.char ':' :: (e.2.symbols ++ s))
  have hentry : entrySymbols e ++ s = .char '"' :: body := by
    rw [entrySymbols, List.append_assoc, List.cons_append, hbody]
  rw [hentry]
  -- With a comma or without, the key is read from behind the same quote.
  constructor
  · show (string body >>= _) = _
    rw [hstring, ok_bind]
    simp only [h s hs, ok_bind]
  · show (string body >>= _) = _
    rw [hstring, ok_bind]
    simp only [h s hs, ok_bind]

theorem entries_later {es : List (String × Json)} {g g' : σ} (h : Gathers (Takes step) es g g')
    {fuel : Nat} (hfuel : es.length < fuel) (s : List Symbol) :
    entries step fuel false g
        (es.flatMap (fun e => .char ',' :: entrySymbols e) ++ .char '\x7d' :: s)
      = .ok (g', s) := by
  induction h generalizing fuel with
  | nil g =>
      cases fuel with
      | zero => exact absurd hfuel (by simp)
      | succ fuel => rfl
  | cons h _ ih =>
      cases fuel with
      | zero => exact absurd hfuel (by simp)
      | succ fuel =>
          rw [List.flatMap_cons, List.append_assoc, List.cons_append,
            (entries_succ h fuel (follows_later _ _ (.objectEnd s))).2]
          exact ih (Nat.lt_of_succ_lt_succ hfuel)

/-- **A written object is read back entry by entry.** -/
theorem object_reads {es : List (String × Json)} {g g' : σ} (h : Gathers (Takes step) es g g')
    (s : List Symbol) : object step g (objectBody es ++ s) = .ok (g', s) := by
  cases h with
  | nil => rfl
  | @cons e es _ g' _ h hs =>
      have hbody : objectBody (e :: es) ++ s = entrySymbols e
          ++ (es.flatMap (fun e => .char ',' :: entrySymbols e) ++ .char '\x7d' :: s) := by
        simp [objectBody]
      have hfuel : es.length < (objectBody (e :: es) ++ s).length := by
        have hle := length_le_length_later es entrySymbols
        rw [hbody, List.length_append, List.length_append, List.length_cons]
        omega
      -- The bound of the loop is the length of the whole text, which stays as it is.
      rw [object, hbody, (entries_succ h _ (follows_later _ _ (.objectEnd s))).1, ← hbody]
      exact entries_later hs hfuel s

end

/-! ## Values -/

theorem scalar_digit {d : Nat} (h : d < 10) (s : List Symbol) :
    scalar (.char (Decimal.digit d) :: s) = number false (.char (Decimal.digit d) :: s) := by
  interval_cases d <;> rfl

theorem scalar_reads {j : Json} (h : j.Within 0) : Reads scalar j j := by
  intro s hs
  cases h with
  | null =>
      show (literal "ull".toList (Symbol.ofChars "ull".toList ++ s) >>= _) = _
      rw [literal_append, ok_bind]
  | bool b =>
      cases b with
      | true =>
          show (literal "rue".toList (Symbol.ofChars "rue".toList ++ s) >>= _) = _
          rw [literal_append, ok_bind]
      | false =>
          show (literal "alse".toList (Symbol.ofChars "alse".toList ++ s) >>= _) = _
          rw [literal_append, ok_bind]
  | @integer _ k h =>
      have hnumber := number_ofNat h hs
      obtain ⟨d, cs, hd, hcs⟩ := Decimal.exists_ofNat_eq_cons k
      show scalar (Symbol.ofChars (Decimal.ofNat k) ++ s) = _
      rw [hcs, Symbol.ofChars_cons, List.cons_append] at hnumber ⊢
      rw [scalar_digit hd, hnumber]
  | string t =>
      obtain ⟨body, hbody, hstring⟩ := string_quoted t s
      show scalar (Symbol.ofChars (quoted t) ++ s) = _
      rw [hbody]
      show (string body >>= _) = _
      rw [hstring, ok_bind]

/-- A reader that asks for an opening bracket first takes a scalar for none. -/
theorem match_scalar {β : Type} {j : Json} (h : j.Within 0) (s : List Symbol)
    (onList onObject onScalar : List Symbol → β) :
    (match skipBlanks (j.symbols ++ s) with
      | .char '[' :: rest => onList rest
      | .char '\x7b' :: rest => onObject rest
      | s => onScalar s) = onScalar (j.symbols ++ s) := by
  obtain ⟨c, t, hsymbols, hopens⟩ := h.exists_opens
  rw [h.skipBlanks, hsymbols, List.cons_append]
  split
  · rename_i heq
    exact absurd h (hopens.not_scalar (.inl (Symbol.char.inj (List.cons.inj heq).1)))
  · rename_i heq
    exact absurd h (hopens.not_scalar (.inr (Symbol.char.inj (List.cons.inj heq).1)))
  · rfl

/-- All of a scalar tells its kind. -/
theorem head_reads {j : Json} (h : j.Within 0) : Reads head j j := by
  intro s hs
  rw [head]
  exact (match_scalar h s _ _ scalar).trans (scalar_reads h s hs)

theorem value_reads_scalar {j : Json} (h : j.Within 0) (depth : Nat) :
    Reads (value depth) j j := by
  intro s hs
  cases depth with
  | zero =>
      rw [value]
      exact (match_scalar h s _ _ scalar).trans (scalar_reads h s hs)
  | succ depth =>
      rw [value]
      exact (match_scalar h s _ _ scalar).trans (scalar_reads h s hs)

/-- **Written values read back** where they may be nested as deep. -/
theorem value_reads {n : Nat} {j : Json} (h : j.Within n) {depth : Nat} (hn : n ≤ depth) :
    Reads (value depth) j j := by
  induction h generalizing depth with
  | null => exact value_reads_scalar .null depth
  | bool b => exact value_reads_scalar (.bool b) depth
  | integer h => exact value_reads_scalar (.integer h) depth
  | string t => exact value_reads_scalar (.string t) depth
  | @array n js h ih =>
      cases depth with
      | zero => exact absurd hn (by omega)
      | succ depth =>
          intro s _
          rw [symbols_array, List.cons_append]
          show (list (value depth) (listBody js ++ s) >>= _) = _
          have hlist := list_reads (f := id) h (fun j hj => ih j hj (Nat.le_of_succ_le_succ hn)) s
          rw [List.map_id] at hlist
          rw [hlist, ok_bind]
  | @object n es h ih =>
      cases depth with
      | zero => exact absurd hn (by omega)
      | succ depth =>
          intro s _
          rw [symbols_object, List.cons_append]
          show (object _ [] (objectBody es ++ s) >>= _) = _
          rw [object_reads (gathers_kept fun e he g s hs => ?_), ok_bind]
          simp only [colon_cons, ok_bind, ih e he (Nat.le_of_succ_le_succ hn) s hs]

end Reader
end ComponentSpec.Json
