import ComponentSpec.Codec.Tagged
import ComponentSpec.Proofs.Codec.Record
import Mathlib.Data.List.Nodup

set_option autoImplicit false

/-! # Lawful choices

A choice reads back if looking up the spelling of a value gives the variant it belongs to. For a
sum of structures told apart by a tag it also takes that no structure has a field named like the
tag: its entries are then kept as values until the object ends, and checked by the variant. -/

namespace ComponentSpec.Codec

open Json (Fault Gathers Reads Within)
open Json.Reader (Takes colon_cons ok_bind)

theorem Lawful.variantName (n : Nat) : variantName.Lawful n :=
  .scalar (fun s => .string s) (fun _ => rfl) n

theorem readVariant_reads {β : Type} {variants : List (String × β)} {name : String} {b : β}
    (hb : variant variants name = .ok b) : Reads (readVariant variants) (.string name) b := by
  intro s hs
  have hname : variantName.read 0 ((Json.string name).symbols ++ s) = .ok (name, s) :=
    (Lawful.variantName 0).reads name (Nat.le_refl 0) s hs
  rw [readVariant, hname, ok_bind]
  simp only [hb, ok_bind]

/-- A value with a name of its own is found under this name. -/
theorem variant_map {α β : Type} {values : List α} {name : α → String} {a : α} (ha : a ∈ values)
    (hnames : (values.map name).Nodup) (f : α → β) :
    variant (values.map fun a => (name a, f a)) (name a) = .ok (f a) := by
  rw [variant, List.find?_map]
  cases hfind : values.find? ((fun e => decide (e.1 = name a)) ∘ fun a => (name a, f a)) with
  | none =>
      have hnone := List.find?_eq_none.1 hfind a ha
      exact absurd (decide_eq_true rfl) hnone
  | some b =>
      have hfound := List.find?_some hfind
      have hname : name b = name a := of_decide_eq_true hfound
      have hb := List.inj_on_of_nodup_map hnames (List.mem_of_find?_eq_some hfind) ha hname
      rw [hb]
      rfl

/-! ## Choices by name -/

section

variable {α : Type} {variants : List (String × Payload α)} {spell : α → Spelling}

/-- The name of the value's variant leads back to the value, with the text that it holds. -/
def Spells (variants : List (String × Payload α)) (spelling : Spelling) (a : α) : Prop :=
  match spelling.held with
  | none => variant variants spelling.name = .ok (.none a)
  | some text => ∃ make, variant variants spelling.name = .ok (.text make) ∧ make text = a

/-- A name that stands alone. -/
theorem choice_reads_bare {name : String} {a : α} (h : variant variants name = .ok (.none a))
    (depth : Nat) : Reads ((choice variants spell).read depth) (.string name) a := by
  intro s hs
  obtain ⟨body, hbody, -⟩ := Json.Reader.string_quoted name s
  have hvariant := readVariant_reads h s hs
  have hsymbols : (Json.string name).symbols ++ s = .char '"' :: body := hbody
  rw [hsymbols] at hvariant ⊢
  show (readVariant variants (.char '"' :: body) >>= _) = _
  rw [hvariant, ok_bind]
  rfl

/-- A name with a text, as an object of one entry. -/
theorem choice_reads_held {name text : String} {make : String → α}
    (h : variant variants name = .ok (.text make)) (depth : Nat) :
    Reads ((choice variants spell).read (depth + 1)) (.object [(name, .string text)])
      (make text) := by
  intro s _
  have hheld : Codec.text.read depth ((Json.string text).symbols ++ .char '\x7d' :: s)
      = .ok (text, .char '\x7d' :: s) :=
    (Lawful.text 0).reads text (Nat.zero_le depth) _ (.objectEnd s)
  obtain ⟨body, hbody, hstring⟩ := Json.Reader.string_quoted name
    (.char ':' :: ((Json.string text).symbols ++ .char '\x7d' :: s))
  have hentry : Json.objectBody [(name, .string text)] ++ s = .char '"' :: body := by
    rw [← hbody]
    simp [Json.objectBody, Json.entrySymbols]
  have hkey : readVariantKey variants (.char '"' :: body)
      = .ok (.text make, .char ':' :: ((Json.string text).symbols ++ .char '\x7d' :: s)) := by
    show (Json.Reader.string body >>= _) = _
    rw [hstring, ok_bind]
    simp only [h, ok_bind]
  rw [Json.symbols_object, List.cons_append, hentry]
  show (readVariantKey variants (.char '"' :: body) >>= _) = _
  rw [hkey, ok_bind]
  show (Payload.read (.text make) depth _ >>= _) = _
  simp only [Payload.read, hheld, ok_bind]
  rfl

theorem Spells.write_eq {a : α} (h : Spells variants (spell a) a) :
    ((choice variants spell).write a = .string (spell a).name
        ∧ variant variants (spell a).name = .ok (.none a))
      ∨ ∃ text make, (choice variants spell).write a = .object [((spell a).name, .string text)]
        ∧ variant variants (spell a).name = .ok (.text make) ∧ make text = a := by
  rw [Spells] at h
  cases hheld : (spell a).held with
  | none =>
      rw [hheld] at h
      exact .inl ⟨by simp only [choice, hheld], h⟩
  | some text =>
      rw [hheld] at h
      obtain ⟨make, hvariant, hmake⟩ := h
      exact .inr ⟨text, make, by simp only [choice, hheld], hvariant, hmake⟩

/-- **Choices with the right spelling are lawful.** -/
theorem Lawful.choice (h : ∀ a, Spells variants (spell a) a) (n : Nat) :
    (choice variants spell).Lawful (n + 1) where
  within a := by
    obtain ⟨hwrite, -⟩ | ⟨text, make, hwrite, -, -⟩ := (h a).write_eq
    · exact hwrite ▸ .string _
    · exact hwrite ▸ .object (List.forall_mem_singleton.2 (.string text))
  reads a depth hn := by
    cases depth with
    | zero => exact absurd hn (by omega)
    | succ depth =>
        obtain ⟨hwrite, hvariant⟩ | ⟨text, make, hwrite, hvariant, hmake⟩ := (h a).write_eq
        · rw [hwrite]
          exact choice_reads_bare hvariant _
        · rw [hwrite, ← congrArg (Reads _ _) hmake]
          exact choice_reads_held hvariant depth
  checks a := by
    obtain ⟨hwrite, hvariant⟩ | ⟨text, make, hwrite, hvariant, hmake⟩ := (h a).write_eq
    · rw [hwrite]
      show (variant variants (spell a).name >>= _) = _
      rw [hvariant, ok_bind]
      rfl
    · rw [hwrite]
      show (variant variants (spell a).name >>= _) = _
      rw [hvariant, ok_bind, ← hmake]
      rfl

/-- **Choices among different names are lawful.** -/
theorem Lawful.names {values : List α} {name : α → String} (hall : ∀ a, a ∈ values)
    (hnames : (values.map name).Nodup) (n : Nat) : (names values name).Lawful (n + 1) := by
  have hspells : ∀ a, Spells (values.map fun a => (name a, .none a)) { name := name a } a :=
    fun a => variant_map (hall a) hnames Payload.none
  exact .choice hspells n

end

/-! ## Sums of structures -/

section

variable {α β : Type} {tag name : String} {variants : List (String × (Json → Except Fault α))}
  {spell : α → String × Json} {n : Nat}

/-- The value is spelled as an object without the tag, and the check of its variant takes this
object for the value. -/
def SpellsTagged (tag : String) (variants : List (String × (Json → Except Fault α))) (n : Nat)
    (spelled : String × Json) (a : α) : Prop :=
  ∃ es check, spelled.2 = .object es ∧ (∀ e ∈ es, e.1 ≠ tag) ∧ (∀ e ∈ es, e.2.Within n)
    ∧ variant variants spelled.1 = .ok check ∧ check (.object es) = .ok a

/-- A lawful codec of objects without the tag spells the values that are made of its own. -/
theorem SpellsTagged.of_codec {c : Codec β} {keys : List String} (h : c.Lawful (n + 1))
    (hobject : c.WritesObjects keys) (htag : tag ∉ keys) {make : β → α} {v : String}
    (hv : variant variants v = .ok fun j => do .ok (make (← c.check j))) (b : β) :
    SpellsTagged tag variants n (v, c.write b) (make b) := by
  obtain ⟨es, hes, hkeys⟩ := hobject b
  have hwithin := h.within b
  rw [hes] at hwithin
  cases hwithin with
  | object hwithin =>
      refine ⟨es, _, hes, fun e he heq => htag (heq ▸ hkeys e he), hwithin, hv, ?_⟩
      show (c.check (.object es) >>= _) = _
      rw [← hes, h.checks, ok_bind]

/-- The tag is found first, and every other entry is kept. -/
theorem gathers_tagged {γ : Type} {variants : List (String × γ)} {v : String} {c : γ}
    (hv : variant variants v = .ok c) {es : List (String × Json)} (htag : ∀ e ∈ es, e.1 ≠ tag)
    (hes : ∀ e ∈ es, e.2.Within n) {depth : Nat} (hn : n ≤ depth) :
    Gathers (fun e g g' => Takes (readTaggedEntry tag variants depth) e g g'
        ∧ checkTaggedEntry tag variants g e = .ok g')
      ((tag, .string v) :: es) {} { variant := some c, entries := es } := by
  have hfirst : Takes (readTaggedEntry tag variants depth) (tag, .string v) {}
      { variant := some c } := by
    intro s hs
    rw [readTaggedEntry, if_pos rfl, if_neg (by simp), colon_cons, ok_bind]
    simp only [readVariant_reads hv s hs, ok_bind]
  have hcheck : checkTaggedEntry tag variants {} (tag, .string v)
      = .ok { variant := some c } := by
    have hname : variantName.check (.string v) = .ok v := rfl
    rw [checkTaggedEntry, if_pos rfl, if_neg (by simp), hname, ok_bind, hv]
    rfl
  refine .cons ⟨hfirst, hcheck⟩ ?_
  refine (Gathers.append es []).map (TaggedEntries.mk (some c)) fun e he g g' hg =>
    ⟨fun s hs => ?_, ?_⟩
  · rw [readTaggedEntry, if_neg (htag e he), colon_cons, ok_bind]
    simp only [Json.Reader.value_reads (hes e he) hn s hs, ok_bind, hg]
  · rw [checkTaggedEntry, if_neg (htag e he), hg]

/-- **Sums of structures with the right spelling are lawful.** -/
theorem Lawful.tagged (h : ∀ a, SpellsTagged tag variants n (spell a) a) :
    (tagged tag name variants spell).Lawful (n + 1) where
  within a := by
    obtain ⟨es, check, hes, -, hwithin, -, -⟩ := h a
    simp only [Codec.tagged, hes, Json.withEntry]
    exact .object (List.forall_mem_cons.2 ⟨.string _, hwithin⟩)
  reads a depth hn s _ := by
    obtain ⟨es, check, hes, htag, hwithin, hvariant, hcheck⟩ := h a
    cases depth with
    | zero => exact absurd hn (by omega)
    | succ depth =>
        have hgathers := (gathers_tagged hvariant htag hwithin (Nat.le_of_succ_le_succ hn)).imp
          fun _ _ _ hboth => hboth.1
        simp only [Codec.tagged, hes, Json.withEntry]
        rw [Json.symbols_object, List.cons_append]
        show (Json.Reader.object (readTaggedEntry tag variants depth) {} (_ ++ s) >>= _) = _
        rw [Json.Reader.object_reads hgathers, ok_bind]
        simp only [settleTagged, hcheck, ok_bind]
  checks a := by
    obtain ⟨es, check, hes, htag, hwithin, hvariant, hcheck⟩ := h a
    have hgathers := (gathers_tagged hvariant htag hwithin (Nat.le_refl n)).imp
      fun _ _ _ hboth => hboth.2
    simp only [Codec.tagged, hes, Json.withEntry, hgathers.foldlM_eq, ok_bind, settleTagged, hcheck]

end

end ComponentSpec.Codec
