import ComponentSpec.Codec.Choice

set_option autoImplicit false

/-! # Structures told apart by a tag

The variants of a sum of structures are written as objects whose first entry, the tag, names the
variant. The tag may stand anywhere when such an object is read, so the other entries are read as
values of any shape first and checked once the object has ended. A list is read too: the tag is
its first item, and the other items are the fields. -/

namespace ComponentSpec

open Json (Fault Symbol)
open Json.Reader (Parsed skipBlanks)

/-- What has been found in a tagged object: the variant, and the other entries in order. -/
structure TaggedEntries (β : Type) where
  variant : Option β := none
  entries : List (String × Json) := []

namespace Codec

/-- One entry of a tagged object, from behind its key. -/
def readTaggedEntry {β : Type} (tag : String) (variants : List (String × β)) (depth : Nat)
    (key : String) (found : TaggedEntries β) (s : List Symbol) :
    Except Fault (Parsed (TaggedEntries β)) :=
  if key = tag then
    if found.variant.isSome then .error (.duplicateField tag)
    else do
      let (b, s) ← readVariant variants (← Json.Reader.colon s)
      .ok ({ found with variant := some b }, s)
  else do
    let (v, s) ← Json.Reader.value depth (← Json.Reader.colon s)
    .ok ({ found with entries := found.entries ++ [(key, v)] }, s)

/-- One entry of a tagged object that has been read. -/
def checkTaggedEntry {β : Type} (tag : String) (variants : List (String × β))
    (found : TaggedEntries β) (e : String × Json) : Except Fault (TaggedEntries β) :=
  if e.1 = tag then
    if found.variant.isSome then .error (.duplicateField tag)
    else do .ok { found with variant := some (← variant variants (← variantName.check e.2)) }
  else .ok { found with entries := found.entries ++ [e] }

/-- The value of a tagged object once it has ended. -/
def settleTagged {α : Type} (tag : String) (found : TaggedEntries (Json → Except Fault α)) :
    Except Fault α :=
  match found.variant with
  | some check => check (.object found.entries)
  | none => .error (.missingField tag)

/-- The sum `name` of structures. A variant has the check of its structure; `spell` gives the
variant's name and its structure as an object. -/
def tagged {α : Type} (tag name : String) (variants : List (String × (Json → Except Fault α)))
    (spell : α → String × Json) : Codec α where
  write a := Json.withEntry tag (.string (spell a).1) (spell a).2
  read depth s :=
    match skipBlanks s with
    | .char '[' :: rest => do
      let depth ← Json.Reader.enter depth
      match ← Json.Reader.nextItem true rest with
      | none => .error (.missingField tag)
      | some s =>
        let (check, s) ← readVariant variants s
        let (vs, s) ← Json.Reader.items (Json.Reader.value depth) (s.length + 1) false s
        let s ← Json.Reader.closeList s
        .ok (← check (.array vs), s)
    | .char '\x7b' :: rest => do
      let depth ← Json.Reader.enter depth
      let (found, s) ← Json.Reader.object (readTaggedEntry tag variants depth) {} rest
      .ok (← settleTagged tag found, s)
    | s => Json.Reader.refuse (.taggedEnum name) s
  check
    | .array (v :: vs) => do (← variant variants (← variantName.check v)) (.array vs)
    | .array [] => .error (.missingField tag)
    | .object es => do settleTagged tag (← es.foldlM (checkTaggedEntry tag variants) {})
    | v => .error (.wrongType (.of v) (.taggedEnum name))

end Codec
end ComponentSpec
