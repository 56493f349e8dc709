import ComponentSpec.Codec.Record
import ComponentSpec.Proofs.Json.Skip

set_option autoImplicit false

/-! # Where values end

A codec may take a value apart or skip over it, and either way it ends in the same place:
`Codec.Bounded` says so of a codec, and the codecs that are put together from bounded ones are
bounded (`Codec.Bounded.record` for structures). So the value of one field of a structure can be
read without the others. -/

namespace ComponentSpec

open Json (Fault Symbol)
open Json.Reader

/-- What the codec reads ends where skipping ends. -/
structure Codec.Bounded {α : Type} (c : Codec α) : Prop where
  skips : ∀ {depth : Nat} {s r : List Symbol} {a : α}, c.read depth s = .ok (a, r) → Skips s r

/-- The codec of every field is bounded. -/
inductive Fields.Bounded : {σ α : Type} → Fields σ α → Prop where
  | nil : Bounded .nil
  | cons {α σ β : Type} {field : Field α} {rest : Fields σ β} (h : field.codec.Bounded)
    (hrest : rest.Bounded) : Bounded (.cons field rest)

namespace Fields

variable {σ α : Type} {fields : Fields σ α} {depth : Nat} {s r : List Symbol}

/-- The entry of a field and one that no field has end in the same place. -/
theorem Bounded.readEntry (h : fields.Bounded) {key : String} {founds founds' : σ}
    (hread : fields.readEntry depth key founds s = .ok (founds', r)) :
    ∃ s', colon s = .ok s' ∧ Skips s' r := by
  induction h with
  | nil =>
      obtain ⟨s', hcolon, hread⟩ := exists_of_bind_eq_ok hread
      obtain ⟨t, hskip, hread⟩ := exists_of_bind_eq_ok hread
      obtain ⟨-, rfl⟩ := Prod.mk.inj (Except.ok.inj hread)
      exact ⟨s', hcolon, skipValue_eq_ok_iff.1 hskip⟩
  | cons hfield hrest ih =>
      rw [Fields.readEntry] at hread
      split_ifs at hread with hkey hfound
      · obtain ⟨s', hcolon, hread⟩ := exists_of_bind_eq_ok hread
        obtain ⟨⟨a, t⟩, hvalue, hread⟩ := exists_of_bind_eq_ok hread
        obtain ⟨-, rfl⟩ := Prod.mk.inj (Except.ok.inj hread)
        exact ⟨s', hcolon, hfield.skips hvalue⟩
      · obtain ⟨⟨rest', t⟩, hvalue, hread⟩ := exists_of_bind_eq_ok hread
        obtain ⟨-, rfl⟩ := Prod.mk.inj (Except.ok.inj hread)
        exact ih hvalue

/-- At the end of a list no field is read any more. -/
theorem readItems_of_end {name : String} {total index : Nat} {a : α} {rest : List Symbol}
    (hblanks : skipBlanks s = .char ']' :: rest)
    (hread : fields.readItems name total depth index s = .ok (a, r)) : r = s := by
  induction fields generalizing index with
  | nil => exact (Prod.mk.inj (Except.ok.inj hread)).2.symm
  | cons field fields ih =>
      have hnext : nextItem (index = 0) s = .ok none := by
        rw [nextItem, hblanks]
        rfl
      rw [readItems, hnext, ok_bind] at hread
      simp only at hread
      split at hread
      · exact absurd hread nofun
      · obtain ⟨⟨b, t⟩, hrest, hread⟩ := exists_of_bind_eq_ok hread
        obtain ⟨-, rfl⟩ := Prod.mk.inj (Except.ok.inj hread)
        exact ih hrest

/-- The fields in a list are items. -/
theorem Bounded.readItems (h : fields.Bounded) {name : String} {total index : Nat} {a : α}
    {t : List Symbol} (hread : fields.readItems name total depth index s = .ok (a, t))
    (hend : closeList t = .ok r) : SkipsOut .list (index = 0) s r := by
  induction h generalizing index s t with
  | nil =>
      obtain ⟨-, rfl⟩ := Prod.mk.inj (Except.ok.inj hread)
      exact skipsOut_of_close (skipBlanks_of_closeList hend) _
  | @cons _ _ _ field rest hfield hrest ih =>
      have hall := hread
      rw [Fields.readItems] at hread
      obtain ⟨next, hnext, hread⟩ := exists_of_bind_eq_ok hread
      cases next with
      | none =>
          obtain ⟨left, hblanks⟩ := skipBlanks_of_nextItem_none hnext
          obtain rfl := readItems_of_end hblanks hall
          exact skipsOut_of_close (skipBlanks_of_closeList hend) _
      | some s' =>
          obtain ⟨⟨a, t₁⟩, hvalue, hread⟩ := exists_of_bind_eq_ok hread
          obtain ⟨⟨b, t₂⟩, hitems, hread⟩ := exists_of_bind_eq_ok hread
          obtain ⟨-, rfl⟩ := Prod.mk.inj (Except.ok.inj hread)
          exact .item hnext (hfield.skips hvalue) (ih hitems hend)

end Fields

namespace Codec.Bounded

variable {α β σ : Type}

theorem scalar {write : α → Json} {check : Json → Except Fault α}
    (hlist : ∀ vs a, check (.array vs) ≠ .ok a) (hobject : ∀ es a, check (.object es) ≠ .ok a) :
    (Codec.scalar write check).Bounded := by
  refine ⟨fun {depth s r a} h => ?_⟩
  obtain ⟨⟨v, t⟩, hhead, h⟩ := exists_of_bind_eq_ok h
  obtain ⟨a', hcheck, h⟩ := exists_of_bind_eq_ok h
  obtain ⟨-, rfl⟩ := Prod.mk.inj (Except.ok.inj h)
  refine skips_of_skipScalar (skipScalar_of_scalar (scalar_of_head hhead ?_ ?_))
  · exact fun vs hv => hlist vs a' (hv ▸ hcheck)
  · exact fun es hv => hobject es a' (hv ▸ hcheck)

theorem text : Codec.text.Bounded :=
  .scalar (fun _ _ => nofun) fun _ _ => nofun

theorem flag : Codec.flag.Bounded :=
  .scalar (fun _ _ => nofun) fun _ _ => nofun

theorem as {c : Codec α} (h : c.Bounded) (make : α → β) (parts : β → α) :
    (c.as make parts).Bounded := by
  refine ⟨fun {depth s r b} hread => ?_⟩
  obtain ⟨⟨a, t⟩, ha, hread⟩ := exists_of_bind_eq_ok hread
  obtain ⟨-, rfl⟩ := Prod.mk.inj (Except.ok.inj hread)
  exact h.skips ha

theorem option {c : Codec α} (h : c.Bounded) : c.option.Bounded := by
  refine ⟨fun {depth s r a} hread => ?_⟩
  simp only [Codec.option] at hread
  split at hread
  · rename_i rest hblanks
    obtain ⟨t, hliteral, hread⟩ := exists_of_bind_eq_ok hread
    obtain ⟨-, rfl⟩ := Prod.mk.inj (Except.ok.inj hread)
    refine skips_of_skipScalar ?_
    rw [hblanks]
    exact hliteral
  · obtain ⟨⟨a', t⟩, ha, hread⟩ := exists_of_bind_eq_ok hread
    obtain ⟨-, rfl⟩ := Prod.mk.inj (Except.ok.inj hread)
    exact (h.skips ha).of_skipBlanks

theorem list {c : Codec α} (h : c.Bounded) : c.list.Bounded := by
  refine ⟨fun {depth s r as} hread => ?_⟩
  simp only [Codec.list] at hread
  split at hread
  · rename_i rest hblanks
    obtain ⟨depth', -, hread⟩ := exists_of_bind_eq_ok hread
    exact .list h.skips hblanks hread
  · exact absurd hread (refuse_ne_ok _ _ _)

/-- **A structure of bounded fields is bounded.** -/
theorem record {fields : Fields σ α} (h : fields.Bounded) (name : String) :
    (Codec.record name fields).Bounded := by
  refine ⟨fun {depth s r a} hread => ?_⟩
  simp only [Codec.record] at hread
  split at hread
  · rename_i rest hblanks
    obtain ⟨depth', -, hread⟩ := exists_of_bind_eq_ok hread
    obtain ⟨⟨a', t⟩, hitems, hread⟩ := exists_of_bind_eq_ok hread
    obtain ⟨t', hend, hread⟩ := exists_of_bind_eq_ok hread
    obtain ⟨-, rfl⟩ := Prod.mk.inj (Except.ok.inj hread)
    exact (h.readItems hitems hend).opened (length_lt_of_skipBlanks hblanks)
      (skipOpen_list hblanks)
  · rename_i rest hblanks
    obtain ⟨depth', -, hread⟩ := exists_of_bind_eq_ok hread
    obtain ⟨⟨founds, t⟩, hobject, hread⟩ := exists_of_bind_eq_ok hread
    obtain ⟨a', -, hread⟩ := exists_of_bind_eq_ok hread
    obtain ⟨-, rfl⟩ := Prod.mk.inj (Except.ok.inj hread)
    exact .object h.readEntry hblanks hobject
  · exact absurd hread (refuse_ne_ok _ _ _)

end Codec.Bounded

end ComponentSpec
