import ComponentSpec.Proofs.Codec.Extent
import Mathlib.Data.List.Forall2

set_option autoImplicit false

/-! # Codecs in step

Two codecs are in step if the second reads a value wherever the first does, up to the same place,
and the two values are related. What is put together from codecs in step is in step again, so a part
of a structure may be read in another way, or not be looked at (`Codec.hidden`), and the other parts
are read as they were (`Codec.InStep.record`). -/

namespace ComponentSpec

open Json (Fault Symbol)
open Json.Reader

/-- Wherever `c` reads a value, `c'` reads a related one up to the same place. -/
structure Codec.InStep {α β : Type} (R : α → β → Prop) (c : Codec α) (c' : Codec β) : Prop where
  follows : ∀ {depth : Nat} {s r : List Symbol} {a : α}, c.read depth s = .ok (a, r) →
    ∃ b, c'.read depth s = .ok (b, r) ∧ R a b

/-- The fields have the same keys and codecs in step. `S` relates what has been found, `T` the
tuples of values. -/
inductive Fields.InStep : {σ α τ β : Type} → (S : σ → τ → Prop) → (T : α → β → Prop) →
    Fields σ α → Fields τ β → Prop where
  | nil : InStep (fun _ _ => True) (fun _ _ => True) .nil .nil
  | cons {α β σ τ α' β' : Type} {R : α → β → Prop} {S : σ → τ → Prop} {T : α' → β' → Prop}
    {field : Field α} {field' : Field β} {rest : Fields σ α'} {rest' : Fields τ β'}
    (hkey : field'.key = field.key) (hcodec : field.codec.InStep R field'.codec)
    (habsent : ∀ a, field.whenAbsent = some a → ∃ b, field'.whenAbsent = some b ∧ R a b)
    (hrest : rest.InStep S T rest') :
    InStep (fun x y => Option.Rel R x.1 y.1 ∧ S x.2 y.2) (fun x y => R x.1 y.1 ∧ T x.2 y.2)
      (.cons field rest) (.cons field' rest')

/-! ## Loops -/

namespace Json.Reader

variable {s r : List Symbol} {fuel : Nat} {first : Bool}

theorem items_inStep {α β : Type} {R : α → β → Prop}
    {item : List Symbol → Except Fault (Parsed α)} {item' : List Symbol → Except Fault (Parsed β)}
    (hitem : ∀ {s a t}, item s = .ok (a, t) → ∃ b, item' s = .ok (b, t) ∧ R a b) {as : List α}
    (h : items item fuel first s = .ok (as, r)) :
    ∃ bs, items item' fuel first s = .ok (bs, r) ∧ List.Forall₂ R as bs := by
  induction fuel generalizing first s as r with
  | zero => exact absurd h nofun
  | succ fuel ih =>
      rw [items] at h ⊢
      obtain ⟨next, hnext, h⟩ := exists_of_bind_eq_ok h
      rw [hnext, ok_bind]
      cases next with
      | none =>
          obtain ⟨rfl, rfl⟩ := Prod.mk.inj (Except.ok.inj h)
          exact ⟨[], rfl, .nil⟩
      | some s' =>
          obtain ⟨⟨a, t⟩, ha, h⟩ := exists_of_bind_eq_ok h
          obtain ⟨⟨as', t'⟩, has, h⟩ := exists_of_bind_eq_ok h
          obtain ⟨rfl, rfl⟩ := Prod.mk.inj (Except.ok.inj h)
          obtain ⟨b, hb, hab⟩ := hitem ha
          obtain ⟨bs, hbs, habs⟩ := ih has
          refine ⟨b :: bs, ?_, .cons hab habs⟩
          simp only [hb, ok_bind, hbs]

theorem entries_inStep {σ τ : Type} {S : σ → τ → Prop}
    {step : String → σ → List Symbol → Except Fault (Parsed σ)}
    {step' : String → τ → List Symbol → Except Fault (Parsed τ)}
    (hstep : ∀ {key g h s g' t}, S g h → step key g s = .ok (g', t) →
      ∃ h', step' key h s = .ok (h', t) ∧ S g' h')
    {g g' : σ} {h : τ} (hS : S g h) (hread : entries step fuel first g s = .ok (g', r)) :
    ∃ h', entries step' fuel first h s = .ok (h', r) ∧ S g' h' := by
  induction fuel generalizing first g h s with
  | zero => exact absurd hread nofun
  | succ fuel ih =>
      rw [entries] at hread ⊢
      split at hread
      · cases hread
      · obtain ⟨rfl, rfl⟩ := Prod.mk.inj (Except.ok.inj hread)
        exact ⟨h, rfl, hS⟩
      · obtain ⟨s₁, hnext, hread⟩ := exists_of_bind_eq_ok hread
        obtain ⟨⟨key, s₂⟩, hkey, hread⟩ := exists_of_bind_eq_ok hread
        obtain ⟨⟨g₁, t⟩, hvalue, hread⟩ := exists_of_bind_eq_ok hread
        obtain ⟨h₁, hvalue', hS₁⟩ := hstep hS hvalue
        obtain ⟨h', hread', hS'⟩ := ih hS₁ hread
        refine ⟨h', ?_, hS'⟩
        simp only [hnext, ok_bind, hkey, hvalue', hread']

end Json.Reader

/-! ## Fields -/

namespace Fields

variable {σ α τ β : Type} {S : σ → τ → Prop} {T : α → β → Prop} {fields : Fields σ α}
  {fields' : Fields τ β} {depth : Nat} {s r : List Symbol}

/-- A field that is read in another way. -/
theorem InStep.required {γ δ : Type} {R : γ → δ → Prop} {c : Codec γ} {c' : Codec δ}
    (hcodec : c.InStep R c') (key : String) (hrest : fields.InStep S T fields') :
    Fields.InStep (fun x y => Option.Rel R x.1 y.1 ∧ S x.2 y.2)
      (fun x y => R x.1 y.1 ∧ T x.2 y.2) (.cons (.required key c) fields)
      (.cons (.required key c') fields') :=
  .cons rfl hcodec (fun _ => nofun) hrest

/-- A field that is read as it was. -/
theorem InStep.same {γ : Type} (field : Field γ) (hrest : fields.InStep S T fields') :
    Fields.InStep (fun x y => Option.Rel Eq x.1 y.1 ∧ S x.2 y.2)
      (fun x y => x.1 = y.1 ∧ T x.2 y.2) (.cons field fields) (.cons field fields') :=
  .cons rfl ⟨fun h => ⟨_, h, rfl⟩⟩ (fun a h => ⟨a, h, rfl⟩) hrest

theorem InStep.size_eq (h : fields.InStep S T fields') : fields'.size = fields.size := by
  induction h with
  | nil => rfl
  | cons _ _ _ _ ih => exact congrArg Nat.succ ih

theorem InStep.start (h : fields.InStep S T fields') : S fields.start fields'.start := by
  induction h with
  | nil => trivial
  | cons _ _ _ _ ih => exact ⟨.none, ih⟩

theorem InStep.readEntry (h : fields.InStep S T fields') {key : String} {g g' : σ} {f : τ}
    (hS : S g f) (hread : fields.readEntry depth key g s = .ok (g', r)) :
    ∃ f', fields'.readEntry depth key f s = .ok (f', r) ∧ S g' f' := by
  induction h with
  | nil => exact ⟨(), hread, trivial⟩
  | @cons _ _ _ _ _ _ R S T field field' rest rest' hkey hcodec _ _ ih =>
      obtain ⟨x, xs⟩ := g
      obtain ⟨y, ys⟩ := f
      obtain ⟨hxy, hS⟩ := hS
      rw [Fields.readEntry] at hread ⊢
      rw [hkey]
      split_ifs at hread with hfield hsome
      · cases hxy with
        | some _ => exact absurd rfl hsome
        | none =>
            obtain ⟨s', hcolon, hread⟩ := exists_of_bind_eq_ok hread
            obtain ⟨⟨a, t⟩, ha, hread⟩ := exists_of_bind_eq_ok hread
            obtain ⟨rfl, rfl⟩ := Prod.mk.inj (Except.ok.inj hread)
            obtain ⟨b, hb, hab⟩ := hcodec.follows ha
            refine ⟨(some b, ys), ?_, .some hab, hS⟩
            simp only [if_pos hfield, Option.isSome_none, Bool.false_eq_true, if_false, hcolon,
              ok_bind, hb]
      · obtain ⟨⟨xs', t⟩, hxs, hread⟩ := exists_of_bind_eq_ok hread
        obtain ⟨rfl, rfl⟩ := Prod.mk.inj (Except.ok.inj hread)
        obtain ⟨ys', hys, hS'⟩ := ih hS hxs
        refine ⟨(y, ys'), ?_, hxy, hS'⟩
        rw [if_neg hfield, hys, ok_bind]

theorem InStep.settle (h : fields.InStep S T fields') {g : σ} {f : τ} {a : α} (hS : S g f)
    (hsettle : fields.settle g = .ok a) : ∃ b, fields'.settle f = .ok b ∧ T a b := by
  induction h with
  | nil => exact ⟨(), rfl, trivial⟩
  | @cons _ _ _ _ _ _ R S T field field' rest rest' hkey hcodec habsent _ ih =>
      obtain ⟨x, xs⟩ := g
      obtain ⟨y, ys⟩ := f
      obtain ⟨hxy, hS⟩ := hS
      rw [Fields.settle] at hsettle ⊢
      split at hsettle
      · exact absurd hsettle nofun
      · rename_i a' ha'
        obtain ⟨as, has, hsettle⟩ := exists_of_bind_eq_ok hsettle
        obtain rfl := Except.ok.inj hsettle
        obtain ⟨bs, hbs, hT⟩ := ih hS has
        obtain ⟨b, hb, hab⟩ : ∃ b, y.or field'.whenAbsent = some b ∧ R a' b := by
          cases hxy with
          | some hxy =>
              obtain rfl := Option.some.inj ha'
              exact ⟨_, rfl, hxy⟩
          | none => exact habsent a' ha'
        refine ⟨(b, bs), ?_, hab, hT⟩
        rw [hb]
        simp only [hbs, ok_bind]

theorem InStep.readItems (h : fields.InStep S T fields') {name : String} {total index : Nat}
    {a : α} (hread : fields.readItems name total depth index s = .ok (a, r)) :
    ∃ b, fields'.readItems name total depth index s = .ok (b, r) ∧ T a b := by
  induction h generalizing index s with
  | nil => exact ⟨(), hread, trivial⟩
  | @cons _ _ _ _ _ _ R S T field field' rest rest' hkey hcodec habsent _ ih =>
      rw [Fields.readItems] at hread ⊢
      obtain ⟨next, hnext, hread⟩ := exists_of_bind_eq_ok hread
      rw [hnext, ok_bind]
      cases next with
      | some s' =>
          obtain ⟨⟨a', t⟩, ha, hread⟩ := exists_of_bind_eq_ok hread
          obtain ⟨⟨as, t'⟩, has, hread⟩ := exists_of_bind_eq_ok hread
          obtain ⟨rfl, rfl⟩ := Prod.mk.inj (Except.ok.inj hread)
          obtain ⟨b, hb, hab⟩ := hcodec.follows ha
          obtain ⟨bs, hbs, hT⟩ := ih has
          refine ⟨(b, bs), ?_, hab, hT⟩
          simp only [hb, ok_bind, hbs]
      | none =>
          simp only at hread ⊢
          split at hread
          · cases hread
          · rename_i a' ha'
            obtain ⟨⟨as, t⟩, has, hread⟩ := exists_of_bind_eq_ok hread
            obtain ⟨rfl, rfl⟩ := Prod.mk.inj (Except.ok.inj hread)
            obtain ⟨b, hb, hab⟩ := habsent a' ha'
            obtain ⟨bs, hbs, hT⟩ := ih has
            refine ⟨(b, bs), ?_, hab, hT⟩
            simp only [hb, hbs, ok_bind]

end Fields

/-! ## Codecs -/

namespace Codec

variable {α β α' β' σ τ : Type} {R : α → β → Prop} {c : Codec α} {c' : Codec β}

namespace InStep

theorem as {R' : α' → β' → Prop} {make : α → α'} {parts : α' → α} {make' : β → β'}
    {parts' : β' → β} (h : c.InStep R c') (hmake : ∀ {a b}, R a b → R' (make a) (make' b)) :
    (c.as make parts).InStep R' (c'.as make' parts') := by
  refine ⟨fun {depth s r a} hread => ?_⟩
  obtain ⟨⟨a', t⟩, ha, hread⟩ := exists_of_bind_eq_ok hread
  obtain ⟨rfl, rfl⟩ := Prod.mk.inj (Except.ok.inj hread)
  obtain ⟨b, hb, hab⟩ := h.follows ha
  refine ⟨make' b, ?_, hmake hab⟩
  simp only [Codec.as, hb, ok_bind]

theorem as_left {R' : α' → β → Prop} {make : α → α'} {parts : α' → α} (h : c.InStep R c')
    (hmake : ∀ {a b}, R a b → R' (make a) b) : (c.as make parts).InStep R' c' := by
  refine ⟨fun {depth s r a} hread => ?_⟩
  obtain ⟨⟨a', t⟩, ha, hread⟩ := exists_of_bind_eq_ok hread
  obtain ⟨rfl, rfl⟩ := Prod.mk.inj (Except.ok.inj hread)
  obtain ⟨b, hb, hab⟩ := h.follows ha
  exact ⟨b, hb, hmake hab⟩

theorem list (h : c.InStep R c') : c.list.InStep (List.Forall₂ R) c'.list := by
  refine ⟨fun {depth s r as} hread => ?_⟩
  simp only [Codec.list] at hread ⊢
  split at hread
  · rename_i rest hblanks
    obtain ⟨depth', hdepth, hread⟩ := exists_of_bind_eq_ok hread
    obtain ⟨⟨as', t⟩, hitems, hread⟩ := exists_of_bind_eq_ok hread
    obtain ⟨t', hend, hread⟩ := exists_of_bind_eq_ok hread
    obtain ⟨rfl, rfl⟩ := Prod.mk.inj (Except.ok.inj hread)
    obtain ⟨bs, hbs, habs⟩ := items_inStep h.follows hitems
    refine ⟨bs, ?_, habs⟩
    simp only [hdepth, ok_bind, Json.Reader.list, hbs, hend]
  · exact absurd hread (refuse_ne_ok _ _ _)

/-- **Structures with fields in step are in step.** -/
theorem record {S : σ → τ → Prop} {fields : Fields σ α} {fields' : Fields τ β}
    (h : fields.InStep S R fields') (name : String) :
    (Codec.record name fields).InStep R (Codec.record name fields') := by
  refine ⟨fun {depth s r a} hread => ?_⟩
  simp only [Codec.record] at hread ⊢
  split at hread
  · obtain ⟨depth', hdepth, hread⟩ := exists_of_bind_eq_ok hread
    obtain ⟨⟨a', t⟩, hitems, hread⟩ := exists_of_bind_eq_ok hread
    obtain ⟨t', hend, hread⟩ := exists_of_bind_eq_ok hread
    obtain ⟨rfl, rfl⟩ := Prod.mk.inj (Except.ok.inj hread)
    obtain ⟨b, hb, hab⟩ := h.readItems hitems
    refine ⟨b, ?_, hab⟩
    simp only [hdepth, ok_bind, h.size_eq, hb, hend]
  · obtain ⟨depth', hdepth, hread⟩ := exists_of_bind_eq_ok hread
    obtain ⟨⟨g, t⟩, hobject, hread⟩ := exists_of_bind_eq_ok hread
    obtain ⟨a', hsettle, hread⟩ := exists_of_bind_eq_ok hread
    obtain ⟨rfl, rfl⟩ := Prod.mk.inj (Except.ok.inj hread)
    obtain ⟨f, hobject', hS⟩ := entries_inStep h.readEntry h.start hobject
    obtain ⟨b, hb, hab⟩ := h.settle hS hsettle
    refine ⟨b, ?_, hab⟩
    simp only [hdepth, ok_bind, object, hobject', hb]
  · exact absurd hread (refuse_ne_ok _ _ _)

/-- Whole inputs are read in step. -/
theorem decode (h : c.InStep R c') {s : List Symbol} {a : α} (hread : c.decode s = .ok a) :
    ∃ b, c'.decode s = .ok b ∧ R a b := by
  obtain ⟨⟨a', r⟩, ha, hread⟩ := exists_of_bind_eq_ok hread
  simp only at hread
  split_ifs at hread with hblanks
  obtain rfl := Except.ok.inj hread
  obtain ⟨b, hb, hab⟩ := h.follows ha
  refine ⟨b, ?_, hab⟩
  show (c'.read maxDepth s >>= _) = _
  rw [hb, ok_bind]
  exact if_pos hblanks

/-- What is decided by the one value is decided by the other. -/
theorem iff_of_decode (h : c.InStep R c') {P : Prop} {Q : β → Prop} {s : List Symbol} {a : α}
    (hread : c.decode s = .ok a) (hiff : ∀ b, R a b → (P ↔ Q b)) :
    P ↔ ∃ b, c'.decode s = .ok b ∧ Q b := by
  obtain ⟨b, hb, hab⟩ := h.decode hread
  rw [hiff b hab, hb]
  constructor
  · intro hq
    exact ⟨b, rfl, hq⟩
  · rintro ⟨b', hb', hq⟩
    obtain rfl := Except.ok.inj hb'
    exact hq

end InStep

/-- A value of any shape that is not looked at. -/
def hidden : Codec Unit where
  write _ := .null
  read _ s := do .ok ((), ← skipValue s)
  check _ := .ok ()

/-- What ends where skipping ends need not be looked at. -/
theorem Bounded.inStep_hidden (h : c.Bounded) : c.InStep (fun _ _ => True) hidden := by
  refine ⟨fun {depth s r a} hread => ⟨(), ?_, trivial⟩⟩
  simp only [hidden, (h.skips hread).skipValue, ok_bind]

end Codec

end ComponentSpec
