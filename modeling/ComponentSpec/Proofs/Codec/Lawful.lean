import ComponentSpec.Codec.Basic
import ComponentSpec.Proofs.Json.Value

set_option autoImplicit false

/-! # Lawful codecs

A codec is lawful if what it writes is read back, from the running text and from a value that has
been read before. The number of lists and objects that it opens inside each other is part of the
law, since a reader may open only so many. The codecs of a project are lawful because those they
are put together from are; `Lawful.roundTrips` brings the law down to whole texts. -/

namespace ComponentSpec.Codec

open Json (Fault Reads Within)

/-- What the codec writes, it reads back, with at most `n` lists and objects inside each other. -/
structure Lawful {α : Type} (c : Codec α) (n : Nat) : Prop where
  within : ∀ a, (c.write a).Within n
  reads : ∀ a {depth : Nat}, n ≤ depth → Reads (c.read depth) (c.write a) a
  checks : ∀ a, c.check (c.write a) = .ok a

/-- The text of a value holds this value. -/
def RoundTrips {α : Type} (c : Codec α) : Prop :=
  ∀ a, c.ofText (c.toText a) = .ok a

namespace Lawful

variable {α β : Type} {c : Codec α} {n : Nat}

/-- **A lawful codec reads back the texts it writes**, if they are nested as a reader allows. -/
theorem roundTrips (h : c.Lawful n) (hn : n ≤ Json.Reader.maxDepth) : c.RoundTrips := by
  intro a
  have hread := h.reads a hn [] .nil
  rw [List.append_nil, Json.symbols] at hread
  rw [ofText, decode, toText, Json.toCompactString, Json.Symbol.ofText, String.toList_ofList,
    Json.Reader.whole, hread]
  rfl

/-! ## Scalars -/

theorem scalar {write : α → Json} {check : Json → Except Fault α} (hw : ∀ a, (write a).Within 0)
    (hc : ∀ a, check (write a) = .ok a) (n : Nat) : (scalar write check).Lawful n where
  within a := (hw a).of_zero
  reads a _ _ s hs := by
    show (Json.Reader.head ((write a).symbols ++ s) >>= _) = _
    rw [Json.Reader.head_reads (hw a) s hs, Json.Reader.ok_bind]
    simp only [hc, Json.Reader.ok_bind]
  checks := hc

theorem text (n : Nat) : text.Lawful n :=
  .scalar (fun s => .string s) (fun _ => rfl) n

theorem flag (n : Nat) : flag.Lawful n :=
  .scalar (fun b => .bool b) (fun _ => rfl) n

theorem word (n : Nat) : word.Lawful n := by
  refine .scalar (fun w => .integer (Nat.lt_trans w.toNat_lt_size (by decide))) (fun w => ?_) n
  have hbounds : 0 ≤ (w.toNat : Int) ∧ (w.toNat : Int) < UInt32.size :=
    ⟨Int.natCast_nonneg _, Int.ofNat_lt.2 w.toNat_lt_size⟩
  simp only [if_pos hbounds, Int.toNat_natCast]
  exact congrArg _ UInt32.ofNat_toNat

theorem unit (wanted : Json.Wanted) (n : Nat) : (Codec.unit wanted).Lawful n :=
  .scalar (fun _ => .null) (fun _ => rfl) n

/-! ## Options, lists and other types -/

/-- A value that is never written as `null` can be told from a missing one. -/
theorem option (h : c.Lawful n) (hnull : ∀ a, c.write a ≠ .null) : c.option.Lawful n where
  within a := by
    cases a with
    | none => exact .null
    | some a => exact h.within a
  reads a depth hn s hs := by
    cases a with
    | none =>
        show (Json.Reader.literal "ull".toList (Json.Symbol.ofChars "ull".toList ++ s) >>= _) = _
        rw [Json.Reader.literal_append, Json.Reader.ok_bind]
    | some a =>
        obtain ⟨ch, t, hsymbols, hopens⟩ := (h.within a).exists_opens
        have hread := h.reads a hn s hs
        simp only [Codec.option, (h.within a).skipBlanks]
        rw [hsymbols, List.cons_append] at hread ⊢
        -- Nothing but `null` begins with the letter that `none` is told by.
        split
        · rename_i heq
          exact absurd (hopens.eq_null (Json.Symbol.char.inj (List.cons.inj heq).1)) (hnull a)
        · rw [hread, Json.Reader.ok_bind]
  checks a := by
    cases a with
    | none => rfl
    | some a =>
        simp only [Codec.option]
        split
        · rename_i heq
          exact absurd heq (hnull a)
        · rw [h.checks, Json.Reader.ok_bind]

theorem list (h : c.Lawful n) : c.list.Lawful (n + 1) where
  within as := .array (List.forall_mem_map.2 fun a _ => h.within a)
  reads as depth hn s _ := by
    cases depth with
    | zero => exact absurd hn (by omega)
    | succ depth =>
        show c.list.read (depth + 1) ((Json.array (as.map c.write)).symbols ++ s) = _
        rw [Json.symbols_array, List.cons_append]
        show Json.Reader.list (c.read depth) (Json.listBody (as.map c.write) ++ s) = _
        exact Json.Reader.list_reads (fun a _ => h.within a)
          (fun a _ => h.reads a (Nat.le_of_succ_le_succ hn)) s
  checks as := by
    show (as.map c.write).mapM c.check = .ok as
    induction as with
    | nil => rfl
    | cons a as ih =>
        rw [List.map_cons, List.mapM_cons, h.checks, Json.Reader.ok_bind, ih]
        rfl

theorem as (h : c.Lawful n) {make : α → β} {parts : β → α} (hmake : ∀ b, make (parts b) = b) :
    (c.as make parts).Lawful n where
  within b := h.within (parts b)
  reads b depth hn s hs := by
    simp only [Codec.as, h.reads (parts b) hn s hs, Json.Reader.ok_bind, hmake]
  checks b := by
    simp only [Codec.as, h.checks, Json.Reader.ok_bind, hmake]

end Lawful
end ComponentSpec.Codec
