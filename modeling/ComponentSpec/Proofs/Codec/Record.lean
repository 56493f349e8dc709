import ComponentSpec.Codec.Record
import ComponentSpec.Proofs.Codec.Lawful

set_option autoImplicit false

/-! # Lawful structures

A structure reads back if its fields have different keys, each field has a lawful codec, and a
value that is left out is the one that a missing field has. Reading the running text and checking a
value that has been read go through the same entries, so each of them is followed once, by what it
adds to what has been found (`Fields.Meets`), and the entries of a value add up to the value
(`Fields.gathers_entries`). -/

namespace ComponentSpec

open Json (Fault Gathers Reads Within)

/-! ## Fields -/

namespace Field

/-- The field's codec is lawful, and a value that is left out is the one of a missing field. -/
structure Lawful {α : Type} (field : Field α) (n : Nat) : Prop where
  codec : field.codec.Lawful n
  absent : ∀ a, field.omits a = true → field.whenAbsent = some a

namespace Lawful

variable {α : Type} {key : String} {c : Codec α} {n : Nat}

theorem required (h : c.Lawful n) : (Field.required key c).Lawful n :=
  ⟨h, fun _ => nofun⟩

theorem defaulted {a : α} (h : c.Lawful n) : (Field.defaulted key c a).Lawful n :=
  ⟨h, fun _ => nofun⟩

theorem nullable (h : c.Lawful n) (hnull : ∀ a, c.write a ≠ .null) :
    (Field.nullable key c).Lawful n :=
  .defaulted (h.option hnull)

theorem optional (h : c.Lawful n) (hnull : ∀ a, c.write a ≠ .null) :
    (Field.optional key c).Lawful n where
  codec := h.option hnull
  absent a ha := by
    cases a with
    | none => rfl
    | some a => exact absurd ha Bool.false_ne_true

theorem listed (h : c.Lawful n) : (Field.listed key c).Lawful (n + 1) where
  codec := h.list
  absent as has := by
    cases as with
    | nil => rfl
    | cons a as => exact absurd has Bool.false_ne_true

end Lawful
end Field

namespace Fields

/-- The keys of the fields. -/
def keys : {σ α : Type} → Fields σ α → List String
  | _, _, .nil => []
  | _, _, .cons field rest => field.key :: rest.keys

/-- All fields are lawful. -/
inductive Lawful (n : Nat) : {σ α : Type} → Fields σ α → Prop where
  | nil : Lawful n .nil
  | cons {α σ β : Type} {field : Field α} {rest : Fields σ β} (h : field.Lawful n)
    (hrest : rest.Lawful n) : Lawful n (.cons field rest)

/-- What is found in the written entries. -/
def found : {σ α : Type} → Fields σ α → α → σ
  | _, _, .nil, () => ()
  | _, _, .cons field rest, (a, b) => (if field.omits a then none else some a, rest.found b)

variable {σ α β : Type} {n : Nat}

theorem mem_keys_of_mem_entries {fields : Fields σ α} {a : α} {e : String × Json}
    (he : e ∈ fields.entries a) : e.1 ∈ fields.keys := by
  induction fields with
  | nil => exact absurd he List.not_mem_nil
  | cons field rest ih =>
      obtain ⟨a, b⟩ := a
      rw [entries] at he
      split at he
      · exact List.mem_cons_of_mem _ (ih he)
      · cases List.mem_cons.1 he with
        | inl h => exact h ▸ List.mem_cons_self
        | inr h => exact List.mem_cons_of_mem _ (ih h)

theorem Lawful.within_entries {fields : Fields σ α} (h : fields.Lawful n) {a : α}
    {e : String × Json} (he : e ∈ fields.entries a) : e.2.Within n := by
  induction h with
  | nil => exact absurd he List.not_mem_nil
  | cons h _ ih =>
      obtain ⟨a, b⟩ := a
      rw [entries] at he
      split at he
      · exact ih he
      · cases List.mem_cons.1 he with
        | inl heq => exact heq ▸ h.codec.within a
        | inr hmem => exact ih hmem

theorem Lawful.settle_found {fields : Fields σ α} (h : fields.Lawful n) (a : α) :
    fields.settle (fields.found a) = .ok a := by
  induction h with
  | nil => rfl
  | @cons _ _ _ field rest h _ ih =>
      obtain ⟨a, b⟩ := a
      have hsome : (if field.omits a then none else some a).or field.whenAbsent = some a := by
        split
        · rename_i homits
          rw [Option.none_or, h.absent a homits]
        · rw [Option.some_or]
      rw [found, settle, hsome]
      simp only [ih, Json.Reader.ok_bind]

/-! ## Entries -/

/-- The entry, in the running text and read before, takes what has been found from the one to the
other. -/
def Meets (fields : Fields σ α) (depth : Nat) (e : String × Json) (g g' : σ) : Prop :=
  Json.Reader.Takes (fields.readEntry depth) e g g' ∧ fields.checkEntry e g = .ok g'

/-- A field's own entry is found once. -/
theorem meets_own {field : Field α} {rest : Fields σ β} (h : field.Lawful n) {depth : Nat}
    (hn : n ≤ depth) (a : α) (founds : σ) :
    (Fields.cons field rest).Meets depth (field.key, field.codec.write a) (none, founds)
      (some a, founds) := by
  constructor
  · intro s hs
    rw [readEntry, if_pos rfl, if_neg (by simp), Json.Reader.colon_cons, Json.Reader.ok_bind]
    simp only [h.codec.reads a hn s hs, Json.Reader.ok_bind]
  · rw [checkEntry, if_pos rfl, if_neg (by simp), h.codec.checks, Json.Reader.ok_bind]

/-- An entry of another key is left to the other fields. -/
theorem Meets.of_rest {field : Field α} {rest : Fields σ β} {depth : Nat} {e : String × Json}
    (hkey : e.1 ≠ field.key) {g g' : σ} (h : rest.Meets depth e g g') (x : Option α) :
    (Fields.cons field rest).Meets depth e (x, g) (x, g') := by
  constructor
  · intro s hs
    rw [readEntry, if_neg hkey, h.1 s hs, Json.Reader.ok_bind]
  · rw [checkEntry, if_neg hkey, h.2, Json.Reader.ok_bind]

/-- **The entries of a value add up to the value.** -/
theorem gathers_entries {fields : Fields σ α} (h : fields.Lawful n) (hkeys : fields.keys.Nodup)
    {depth : Nat} (hn : n ≤ depth) (a : α) :
    Gathers (fields.Meets depth) (fields.entries a) fields.start (fields.found a) := by
  induction h with
  | nil => exact .nil _
  | @cons _ _ _ field rest h _ ih =>
      obtain ⟨a, b⟩ := a
      rw [keys, List.nodup_cons] at hkeys
      -- No other entry has the key of this field, so they leave alone what it has found.
      have hrest : ∀ x, Gathers ((Fields.cons field rest).Meets depth) (rest.entries b)
          (x, rest.start) (x, rest.found b) := fun x =>
        (ih hkeys.2 b).map (x, ·) fun e he g g' hmeets =>
          .of_rest (fun heq => hkeys.1 (heq ▸ mem_keys_of_mem_entries he)) hmeets x
      rw [entries, start, found]
      split
      · exact hrest none
      · exact .cons (meets_own h hn a rest.start) (hrest (some a))

end Fields

/-! ## The codec -/

namespace Codec

variable {α β σ : Type} {n : Nat}

/-- **Structures with lawful fields are lawful.** -/
theorem Lawful.record {name : String} {fields : Fields σ α} (hkeys : fields.keys.Nodup)
    (h : fields.Lawful n) : (record name fields).Lawful (n + 1) where
  within a := .object fun _ he => h.within_entries he
  reads a depth hn s _ := by
    cases depth with
    | zero => exact absurd hn (by omega)
    | succ depth =>
        have hgathers := (Fields.gathers_entries h hkeys (Nat.le_of_succ_le_succ hn) a).imp
          fun _ _ _ hmeets => hmeets.1
        show (Codec.record name fields).read (depth + 1)
          ((Json.object (fields.entries a)).symbols ++ s) = _
        rw [Json.symbols_object, List.cons_append]
        show (Json.Reader.object (fields.readEntry depth) fields.start
          (Json.objectBody (fields.entries a) ++ s) >>= _) = _
        rw [Json.Reader.object_reads hgathers, Json.Reader.ok_bind]
        simp only [h.settle_found, Json.Reader.ok_bind]
  checks a := by
    have hgathers := (Fields.gathers_entries h hkeys (Nat.le_refl n) a).imp
      fun _ _ _ hmeets => hmeets.2
    show fields.checkEntries (fields.entries a) = _
    rw [Fields.checkEntries, hgathers.foldlM_eq, Json.Reader.ok_bind, h.settle_found]

/-- The codec writes objects, with some of the given keys. -/
def WritesObjects (c : Codec α) (keys : List String) : Prop :=
  ∀ a, ∃ es, c.write a = .object es ∧ ∀ e ∈ es, e.1 ∈ keys

theorem WritesObjects.record {name : String} {fields : Fields σ α} :
    (record name fields).WritesObjects fields.keys :=
  fun _ => ⟨_, rfl, fun _ he => Fields.mem_keys_of_mem_entries he⟩

theorem WritesObjects.as {c : Codec α} {keys : List String} (h : c.WritesObjects keys)
    {make : α → β} {parts : β → α} : (c.as make parts).WritesObjects keys :=
  fun b => h (parts b)

end Codec
end ComponentSpec
