import ComponentSpec.Codec.Tagged
import ComponentSpec.Proofs.Codec.InStep

set_option autoImplicit false

/-! # Sums of structures are read as values

The tag of a sum may stand behind the fields that it decides about, so the reader keeps what stands
before it as values of any shape. `Codec.value_of_read_tagged`: wherever a sum is read, a value of
any shape is read there too and ends in the same place, and checking this value gives what was read.
So what an accepted text says of a sum is said by one JSON value, and
`Codec.exists_check_of_check_tagged` finds the variant that takes it. -/

namespace ComponentSpec

open Json (Fault Symbol)
open Json.Reader

/-! ## Values -/

/-- Values of any shape, as they are. -/
def Json.codec : Codec Json where
  write := id
  read := value
  check := .ok

namespace Json.Reader

variable {α : Type} {s r : List Symbol}

theorem value_of_scalar {v : Json} (h : scalar (skipBlanks s) = .ok (v, r)) (depth : Nat) :
    value depth s = .ok (v, r) := by
  cases depth with
  | zero =>
      rw [value]
      split
      · rename_i heq
        rw [heq] at h
        exact absurd h nofun
      · rename_i heq
        rw [heq] at h
        exact absurd h nofun
      · exact h
  | succ depth =>
      rw [value]
      split
      · rename_i heq
        rw [heq] at h
        exact absurd h nofun
      · rename_i heq
        rw [heq] at h
        exact absurd h nofun
      · exact h

theorem eq_succ_of_enter {depth depth' : Nat} (h : enter depth = .ok depth') :
    depth = depth' + 1 := by
  cases depth with
  | zero => exact absurd h nofun
  | succ depth => exact congrArg Nat.succ (Except.ok.inj h)

/-- More rounds than a list needs change nothing. -/
theorem items_add {item : List Symbol → Except Fault (Parsed α)} {fuel : Nat} {first : Bool}
    {as : List α} (h : items item fuel first s = .ok (as, r)) (more : Nat) :
    items item (fuel + more) first s = .ok (as, r) := by
  induction fuel generalizing first s as r with
  | zero => exact absurd h nofun
  | succ fuel ih =>
      rw [items] at h
      obtain ⟨next, hnext, h⟩ := exists_of_bind_eq_ok h
      rw [Nat.succ_add, items, hnext, ok_bind]
      cases next with
      | none => exact h
      | some s =>
          obtain ⟨⟨a, s⟩, hitem, h⟩ := exists_of_bind_eq_ok h
          obtain ⟨⟨as', r'⟩, hrest, h⟩ := exists_of_bind_eq_ok h
          show (item _ >>= _) = _
          rw [hitem, ok_bind]
          show (items item (fuel + more) false s >>= _) = _
          rw [ih hrest]
          exact h

end Json.Reader

/-! ## Sums -/

namespace Codec

variable {α β : Type} {tag name : String} {variants : List (String × β)} {depth : Nat}
  {s r : List Symbol}

/-- The name of a variant is a text, here and in a value. -/
theorem exists_name_of_readVariant {b : β} (h : readVariant variants s = .ok (b, r)) :
    ∃ v, Json.Reader.scalar (skipBlanks s) = .ok (.string v, r)
      ∧ variant variants v = .ok b := by
  obtain ⟨⟨v, t⟩, hname, h⟩ := exists_of_bind_eq_ok h
  obtain ⟨b', hvariant, h⟩ := exists_of_bind_eq_ok h
  obtain ⟨rfl, rfl⟩ := Prod.mk.inj (Except.ok.inj h)
  obtain ⟨⟨j, t'⟩, hhead, hname⟩ := exists_of_bind_eq_ok hname
  obtain ⟨v', hcheck, hname⟩ := exists_of_bind_eq_ok hname
  obtain ⟨rfl, rfl⟩ := Prod.mk.inj (Except.ok.inj hname)
  cases j with
  | string t =>
      obtain rfl := Except.ok.inj hcheck
      exact ⟨t, scalar_of_head hhead (fun _ => nofun) fun _ => nofun, hvariant⟩
  | _ => exact absurd hcheck nofun

/-- An entry of a tagged object is an entry of a value, with the same effect. -/
theorem value_of_readTaggedEntry {key : String} {found found' : TaggedEntries β}
    (h : readTaggedEntry tag variants depth key found s = .ok (found', r)) :
    ∃ s' v, colon s = .ok s' ∧ value depth s' = .ok (v, r)
      ∧ checkTaggedEntry tag variants found (key, v) = .ok found' := by
  rw [readTaggedEntry] at h
  split_ifs at h with htag hfound
  · obtain ⟨s', hcolon, h⟩ := exists_of_bind_eq_ok h
    obtain ⟨⟨b, t⟩, hvariant, h⟩ := exists_of_bind_eq_ok h
    obtain ⟨rfl, rfl⟩ := Prod.mk.inj (Except.ok.inj h)
    obtain ⟨v, hscalar, hv⟩ := exists_name_of_readVariant hvariant
    refine ⟨s', .string v, hcolon, value_of_scalar hscalar depth, ?_⟩
    rw [checkTaggedEntry, if_pos htag, if_neg hfound]
    show (variant variants v >>= _) = _
    rw [hv]
    rfl
  · obtain ⟨s', hcolon, h⟩ := exists_of_bind_eq_ok h
    obtain ⟨⟨v, t⟩, hvalue, h⟩ := exists_of_bind_eq_ok h
    obtain ⟨rfl, rfl⟩ := Prod.mk.inj (Except.ok.inj h)
    refine ⟨s', v, hcolon, hvalue, ?_⟩
    rw [checkTaggedEntry, if_neg htag]

/-- A list that begins with the tag is a list of values. -/
theorem list_of_readVariant {b : β} {body s₁ s₂ t : List Symbol} {vs : List Json}
    (hnext : nextItem true body = .ok (some s₁)) (hvariant : readVariant variants s₁ = .ok (b, s₂))
    (hitems : items (value depth) (s₂.length + 1) false s₂ = .ok (vs, t))
    (hend : closeList t = .ok r) :
    ∃ v, Json.Reader.list (value depth) body = .ok (.string v :: vs, r)
      ∧ variant variants v = .ok b := by
  obtain ⟨v, hscalar, hv⟩ := exists_name_of_readVariant hvariant
  refine ⟨v, ?_, hv⟩
  have hlt := length_lt_of_skipScalar_skipBlanks (skipScalar_of_scalar hscalar)
  have hle := length_le_of_nextItem hnext
  obtain ⟨more, hmore⟩ := Nat.le.dest (Nat.succ_le_of_lt (Nat.lt_of_lt_of_le hlt hle))
  rw [Json.Reader.list, items, hnext, ok_bind]
  simp only [value_of_scalar hscalar, ok_bind]
  rw [← hmore]
  simp only [items_add hitems more, ok_bind, hend]

/-- An object with the tag among its entries is an object of values. -/
theorem object_of_readTaggedEntry {found : TaggedEntries β} {body : List Symbol}
    (h : Json.Reader.object (readTaggedEntry tag variants depth) {} body = .ok (found, r)) :
    ∃ es, value (depth + 1) (.char '\x7b' :: body) = .ok (.object es, r)
      ∧ es.foldlM (checkTaggedEntry tag variants) {} = .ok found := by
  have hstep : ∀ {key g es s g' t},
      es.foldlM (checkTaggedEntry tag variants) {} = .ok g →
      readTaggedEntry tag variants depth key g s = .ok (g', t) →
      ∃ es', (do
          let found ← value depth (← colon s)
          .ok (es ++ [(key, found.1)], found.2)) = (.ok (es', t) : Except Fault _)
        ∧ es'.foldlM (checkTaggedEntry tag variants) {} = .ok g' := by
    intro key g es s g' t hes hread
    obtain ⟨s', v, hcolon, hvalue, hcheck⟩ := value_of_readTaggedEntry hread
    refine ⟨es ++ [(key, v)], ?_, ?_⟩
    · rw [hcolon, ok_bind, hvalue, ok_bind]
    · rw [List.foldlM_append, hes, ok_bind, List.foldlM_cons, hcheck]
      rfl
  rw [Json.Reader.object] at h
  obtain ⟨es, hentries, hes⟩ := entries_inStep
    (S := fun g es => es.foldlM (checkTaggedEntry tag variants) {} = .ok g) hstep (h := []) rfl h
  refine ⟨es, ?_, hes⟩
  show (Json.Reader.object _ [] body >>= _) = _
  rw [Json.Reader.object, hentries]
  rfl

/-- **Sums of structures are read in step with values.** -/
theorem value_of_read_tagged {variants : List (String × (Json → Except Fault α))}
    {spell : α → String × Json} {a : α}
    (h : (tagged tag name variants spell).read depth s = .ok (a, r)) :
    ∃ v, value depth s = .ok (v, r) ∧ (tagged tag name variants spell).check v = .ok a := by
  simp only [tagged] at h
  split at h
  · rename_i body hblanks
    obtain ⟨depth', hdepth, h⟩ := exists_of_bind_eq_ok h
    obtain ⟨next, hnext, h⟩ := exists_of_bind_eq_ok h
    cases next with
    | none => exact absurd h nofun
    | some s₁ =>
        obtain ⟨⟨check, s₂⟩, hvariant, h⟩ := exists_of_bind_eq_ok h
        obtain ⟨⟨vs, t⟩, hitems, h⟩ := exists_of_bind_eq_ok h
        obtain ⟨t', hend, h⟩ := exists_of_bind_eq_ok h
        obtain ⟨a', hcheck, h⟩ := exists_of_bind_eq_ok h
        obtain ⟨rfl, rfl⟩ := Prod.mk.inj (Except.ok.inj h)
        obtain ⟨v, hlist, hv⟩ := list_of_readVariant hnext hvariant hitems hend
        obtain rfl := eq_succ_of_enter hdepth
        refine ⟨.array (.string v :: vs), ?_, ?_⟩
        · rw [value, hblanks]
          show (Json.Reader.list _ body >>= _) = _
          rw [hlist]
          rfl
        · show (variant variants v >>= _) = _
          rw [hv]
          exact hcheck
  · rename_i body hblanks
    obtain ⟨depth', hdepth, h⟩ := exists_of_bind_eq_ok h
    obtain ⟨⟨found, t⟩, hobject, h⟩ := exists_of_bind_eq_ok h
    obtain ⟨a', hsettle, h⟩ := exists_of_bind_eq_ok h
    obtain ⟨rfl, rfl⟩ := Prod.mk.inj (Except.ok.inj h)
    obtain ⟨es, hvalue, hes⟩ := object_of_readTaggedEntry hobject
    obtain rfl := eq_succ_of_enter hdepth
    refine ⟨.object es, ?_, ?_⟩
    · rw [value, hblanks]
      exact hvalue
    · show (es.foldlM _ _ >>= _) = _
      rw [hes]
      exact hsettle
  · exact absurd h (refuse_ne_ok _ _ _)

/-! ## What is checked -/

theorem mem_of_variant_eq_ok {v : String} {b : β} (h : variant variants v = .ok b) :
    b ∈ variants.map Prod.snd := by
  unfold variant at h
  split at h
  · rename_i heq
    obtain rfl := Except.ok.inj h
    exact List.mem_map_of_mem (List.mem_of_find?_eq_some heq)
  · exact absurd h nofun

/-- The variant is one that there is, and all entries but the tag are kept. -/
structure FoundAmong (tag : String) (variants : List (String × β)) (es : List (String × Json))
    (found : TaggedEntries β) : Prop where
  entries : found.entries = es.filter fun e => e.1 ≠ tag
  variant : ∀ b, found.variant = some b → b ∈ variants.map Prod.snd

theorem FoundAmong.concat {es : List (String × Json)} {e : String × Json}
    {found found' : TaggedEntries β} (hfound : FoundAmong tag variants es found)
    (h : checkTaggedEntry tag variants found e = .ok found') :
    FoundAmong tag variants (es ++ [e]) found' := by
  rw [checkTaggedEntry] at h
  split_ifs at h with htag
  · obtain ⟨v, -, h⟩ := exists_of_bind_eq_ok h
    obtain ⟨b, hb, h⟩ := exists_of_bind_eq_ok h
    obtain rfl := Except.ok.inj h
    refine ⟨?_, fun b' hb' => Option.some.inj hb' ▸ mem_of_variant_eq_ok hb⟩
    simp [hfound.entries, htag]
  · obtain rfl := Except.ok.inj h
    refine ⟨?_, hfound.variant⟩
    simp [hfound.entries, htag]

theorem foundAmong_of_foldlM {es : List (String × Json)} {found : TaggedEntries β}
    (h : es.foldlM (checkTaggedEntry tag variants) {} = .ok found) :
    FoundAmong tag variants es found := by
  induction es using List.reverseRecOn generalizing found with
  | nil =>
      obtain rfl := Except.ok.inj h
      exact ⟨rfl, fun _ => nofun⟩
  | append_singleton es e ih =>
      rw [List.foldlM_append] at h
      obtain ⟨g, hg, h⟩ := exists_of_bind_eq_ok h
      obtain ⟨g', hg', h⟩ := exists_of_bind_eq_ok h
      obtain rfl := Except.ok.inj h
      exact (ih hg).concat hg'

end Codec

/-- The value of a field, in an object by its key and in a list by its place. -/
def Json.field? (v : Json) (key : String) (place : Nat) : Option Json :=
  match v with
  | .object es => es.lookup key
  | .array vs => vs[place]?
  | _ => none

theorem lookup_filter_ne {key key' : String} (hne : key ≠ key') (es : List (String × Json)) :
    (es.filter fun e => e.1 ≠ key').lookup key = es.lookup key := by
  induction es with
  | nil => rfl
  | cons e es ih =>
      obtain ⟨k, v⟩ := e
      by_cases hk : k = key'
      · have hkey : (key == k) = false := by simpa [hk] using hne
        rw [List.filter_cons_of_neg (by simp [hk]), ih, List.lookup_cons, hkey]
      · rw [List.filter_cons_of_pos (by simp [hk]), List.lookup_cons, List.lookup_cons, ih]

namespace Codec

/-- **A sum is checked by a variant**, which finds the fields behind the tag. -/
theorem exists_check_of_check_tagged {α : Type} {tag name : String}
    {variants : List (String × (Json → Except Fault α))} {spell : α → String × Json} {v : Json}
    {a : α} (h : (tagged tag name variants spell).check v = .ok a) :
    ∃ check ∈ variants.map Prod.snd, ∃ w, check w = .ok a
      ∧ ∀ key, key ≠ tag → ∀ place, v.field? key (place + 1) = w.field? key place := by
  cases v with
  | array vs =>
      cases vs with
      | nil => exact absurd h nofun
      | cons t vs =>
          obtain ⟨v, -, h⟩ := exists_of_bind_eq_ok h
          obtain ⟨check, hcheck, h⟩ := exists_of_bind_eq_ok h
          exact ⟨check, mem_of_variant_eq_ok hcheck, .array vs, h, fun _ _ _ => rfl⟩
  | object es =>
      obtain ⟨found, hfound, h⟩ := exists_of_bind_eq_ok h
      have hamong := foundAmong_of_foldlM hfound
      rw [settleTagged] at h
      split at h
      · rename_i check hvariant
        refine ⟨check, hamong.variant check hvariant, .object found.entries, h,
          fun key hkey place => ?_⟩
        rw [Json.field?, Json.field?, hamong.entries, lookup_filter_ne hkey]
      · exact absurd h nofun
  | _ => exact absurd h nofun

end Codec

end ComponentSpec
