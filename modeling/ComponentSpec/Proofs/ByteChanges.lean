import ComponentSpec.Proofs.Lanes
import ComponentSpec.Proofs.Surface

set_option autoImplicit false

/-! # One changed byte changes both halves

Surfaces whose bytes differ at one position have fingerprints that differ in both halves
(`Model.halves_ne_of_one_byte`). To say which changes are so small, a surface is written part by
part: tags, flags, numbers and texts (`Surface.parts`). A flag that is turned is one byte, and
so is one ASCII character in place of another; neither moves any byte behind it. -/

namespace ComponentSpec

namespace Surface

/-! ## Surfaces part by part -/

/-- One thing that is written into the bytes of a surface. -/
inductive Part where
  /-- The tag before a list. -/
  | tag (t : UInt8)
  /-- Whether a prop is optional, or a state value updated lazily. -/
  | flag (b : Bool)
  /-- How many items a list has. -/
  | number (n : Nat)
  /-- A name or a type. -/
  | text (s : String)
  deriving DecidableEq

def Part.bytes : Part → List UInt8
  | .tag t => [t]
  | .flag b => [Surface.flag b]
  | .number n => Surface.number n
  | .text s => Surface.text s

def keyParts (k : Key) : List Part :=
  [.text k.name, .text k.typeName.text]

def listingParts (tag : UInt8) (keys : List Key) : List Part :=
  .tag tag :: .number keys.length :: keys.flatMap keyParts

/-- What is written of a surface, in order. -/
def parts (s : HashedSurface) : List Part :=
  [.text s.specType.text, .text s.componentType.text]
    ++ listingParts 1 s.props ++ s.optionalFlags.map .flag
    ++ listingParts 2 s.injectProps
    ++ listingParts 3 s.stateValues ++ s.lazyFlags.map .flag
    ++ listingParts 4 s.stageInputs ++ listingParts 5 s.treeValues ++ listingParts 6 s.renderDiffs
    ++ .tag 7 :: .number s.events.length :: s.events.flatMap (fun e => [.text e.1, .text e.2.text])
    ++ .number s.delegates.length :: s.delegates.map .text

theorem flatMap_bytes_listingParts {α : Type} [Declared α] (tag : UInt8) (as : List α) :
    (listingParts tag (as.map Key.of)).flatMap Part.bytes = listing tag as := by
  rw [listingParts, List.flatMap_cons, List.flatMap_cons, List.length_map, List.flatMap_map,
    List.flatMap_assoc]
  have hkey : ∀ a : α, (keyParts (Key.of a)).flatMap Part.bytes = declared a := fun a => by
    simp [keyParts, declared, Part.bytes, Key.of]
  simp only [hkey]
  rfl

theorem flatMap_bytes_flags (flags : List Bool) :
    (flags.map Part.flag).flatMap Part.bytes = flags.map flag := by
  rw [List.flatMap_map, List.map_eq_flatMap]
  rfl

/-- The parts make up the bytes. -/
theorem flatMap_bytes_parts (m : Model) :
    (parts m.hashedSurface).flatMap Part.bytes = ofModel m := by
  have hflags : ∀ {α : Type} (flagOf : α → Bool) (as : List α),
      ((as.map flagOf).map Part.flag).flatMap Part.bytes = as.map fun a => flag (flagOf a) := by
    intro α flagOf as
    rw [flatMap_bytes_flags, List.map_map]
    rfl
  simp only [parts, Model.hashedSurface, List.flatMap_append, List.flatMap_cons,
    List.flatMap_nil, flatMap_bytes_listingParts, hflags, List.flatMap_map, List.flatMap_assoc,
    List.length_map, List.append_nil, Part.bytes, ofModel, List.cons_append, List.nil_append,
    List.append_assoc]

/-! ## What takes one byte only -/

theorem differAtOne_flags (before after : List Bool) (b : Bool) :
    DifferAtOne ((before ++ b :: after).map flag) ((before ++ (!b) :: after).map flag) := by
  rw [List.map_append, List.map_append]
  exact differAtOne_of_split (by cases b <;> decide) _ _

theorem toUInt8_val_ne {c c' : Char} (hc : c.val ≤ 127) (hc' : c'.val ≤ 127) (hne : c ≠ c') :
    c.val.toUInt8 ≠ c'.val.toUInt8 := by
  intro h
  refine hne (Char.ext (UInt32.toNat_inj.1 ?_))
  have hmod := congrArg UInt8.toNat h
  rw [UInt32.toNat_toUInt8, UInt32.toNat_toUInt8] at hmod
  rw [UInt32.le_iff_toNat_le] at hc hc'
  have h127 : (127 : UInt32).toNat = 127 := rfl
  omega

/-- The bytes of a text around one ASCII character. -/
theorem text_ofList_append_cons (l r : List Char) {c : Char} (hc : c.val ≤ 127) :
    text (.ofList (l ++ c :: r))
      = number (((l ++ r).flatMap String.utf8EncodeChar).length + 1)
        ++ l.flatMap String.utf8EncodeChar
        ++ c.val.toUInt8 :: r.flatMap String.utf8EncodeChar := by
  rw [text, String.toList_ofList, List.flatMap_append, List.flatMap_cons,
    String.utf8EncodeChar_eq_singleton (Char.utf8Size_eq_one_iff.2 hc), List.singleton_append,
    List.flatMap_append, List.length_append, List.length_cons, List.length_append,
    List.append_assoc]
  rfl

theorem differAtOne_text (l r : List Char) {c c' : Char} (hc : c.val ≤ 127) (hc' : c'.val ≤ 127)
    (hne : c ≠ c') :
    DifferAtOne (text (.ofList (l ++ c :: r))) (text (.ofList (l ++ c' :: r))) := by
  rw [text_ofList_append_cons l r hc, text_ofList_append_cons l r hc']
  exact differAtOne_of_split (toUInt8_val_ne hc hc' hne) _ _

/-! ## Altered surfaces -/

/-- The second surface is the first with one flag turned, or with another ASCII character in one
place of one text. -/
inductive AlteredAtOne (s : HashedSurface) : HashedSurface → Prop
  /-- A prop becomes optional, or is optional no more. -/
  | optional {before after : List Bool} {b : Bool} (h : s.optionalFlags = before ++ b :: after) :
      AlteredAtOne s { s with optionalFlags := before ++ (!b) :: after }
  /-- A state value comes to be updated lazily, or no more. -/
  | lazily {before after : List Bool} {b : Bool} (h : s.lazyFlags = before ++ b :: after) :
      AlteredAtOne s { s with lazyFlags := before ++ (!b) :: after }
  /-- A name or a type, anywhere, is spelled with another character. -/
  | character {s' : HashedSurface} {before after : List Part} {l r : List Char} {c c' : Char}
      (h : parts s = before ++ .text (.ofList (l ++ c :: r)) :: after)
      (h' : parts s' = before ++ .text (.ofList (l ++ c' :: r)) :: after)
      (hc : c.val ≤ 127) (hc' : c'.val ≤ 127) (hne : c ≠ c') : AlteredAtOne s s'

/-- **An altered surface has other bytes at one position only.** -/
theorem AlteredAtOne.differAtOne {s s' : HashedSurface} (h : AlteredAtOne s s') :
    DifferAtOne ((parts s).flatMap Part.bytes) ((parts s').flatMap Part.bytes) := by
  cases h with
  | optional h =>
      rw [parts, parts, h]
      simp only [List.flatMap_append, flatMap_bytes_flags]
      -- Eight lists of parts stand behind these flags.
      iterate 8 refine DifferAtOne.append_right ?_ _
      exact (differAtOne_flags ..).append_left _
  | lazily h =>
      rw [parts, parts, h]
      simp only [List.flatMap_append, flatMap_bytes_flags]
      iterate 5 refine DifferAtOne.append_right ?_ _
      exact (differAtOne_flags ..).append_left _
  | character h h' hc hc' hne =>
      rw [h, h', List.flatMap_append, List.flatMap_append, List.flatMap_cons, List.flatMap_cons]
      exact ((differAtOne_text _ _ hc hc' hne).append_right _).append_left _

end Surface

/-! ## Fingerprints -/

open Surface

namespace Model

/-- **One changed byte changes both halves of a fingerprint**, in models of any size: the runs of
bytes of two models have one length and differ at one position. They do so where a single flag of
the surface is turned or a single ASCII character of a name or type gives way to another. -/
theorem halves_ne_of_one_byte :
    (∀ m m' : Model, DifferAtOne (ofModel m) (ofModel m') →
        m.fingerprint.hi ≠ m'.fingerprint.hi ∧ m.fingerprint.lo ≠ m'.fingerprint.lo)
      ∧ ∀ m m' : Model, AlteredAtOne m.hashedSurface m'.hashedSurface →
          DifferAtOne (ofModel m) (ofModel m') := by
  refine ⟨fun m m' h => ?_, fun m m' h => ?_⟩
  · rw [fingerprint, fingerprint]
    exact Fingerprint.halves_ne_of_differAtOne h
  · rw [← flatMap_bytes_parts, ← flatMap_bytes_parts]
    exact h.differAtOne

/-- A model with one prop. -/
def ofTitle (name : String) (optional : Bool) : Model :=
  Draft.modelOf
    { delegateMethods := some [
        { hook := .onCreateLayout
          name := "render"
          params := [.prop { name := name, typeName := ⟨"String"⟩, optional := optional }] }] }
    "com.example.CardSpec" { origin := "CardSpec.java" }

/-- A prop made optional and a prop with another letter in its name. -/
theorem halves_ne_title :
    ((ofTitle "title" false).fingerprint.hi ≠ (ofTitle "title" true).fingerprint.hi
        ∧ (ofTitle "title" false).fingerprint.lo ≠ (ofTitle "title" true).fingerprint.lo)
      ∧ (ofTitle "title" false).fingerprint.hi ≠ (ofTitle "tithe" false).fingerprint.hi
      ∧ (ofTitle "title" false).fingerprint.lo ≠ (ofTitle "tithe" false).fingerprint.lo := by
  obtain ⟨hhalves, hbytes⟩ := halves_ne_of_one_byte
  refine ⟨hhalves _ _ (hbytes _ _ ?_), hhalves _ _ (hbytes _ _ ?_)⟩
  · have hturned : (ofTitle "title" true).hashedSurface
        = { (ofTitle "title" false).hashedSurface with optionalFlags := [] ++ (!false) :: [] } := by
      decide +kernel
    rw [hturned]
    exact .optional (by decide +kernel)
  · have hparts : parts (ofTitle "title" false).hashedSurface
        = (parts (ofTitle "title" false).hashedSurface).take 4
          ++ .text (.ofList (['t', 'i', 't'] ++ 'l' :: ['e']))
            :: (parts (ofTitle "title" false).hashedSurface).drop 5 := by
      decide +kernel
    have hparts' : parts (ofTitle "tithe" false).hashedSurface
        = (parts (ofTitle "title" false).hashedSurface).take 4
          ++ .text (.ofList (['t', 'i', 't'] ++ 'h' :: ['e']))
            :: (parts (ofTitle "title" false).hashedSurface).drop 5 := by
      decide +kernel
    exact .character hparts hparts' (by decide) (by decide) (by decide)

end Model

end ComponentSpec
