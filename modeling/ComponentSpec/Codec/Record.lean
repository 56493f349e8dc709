import ComponentSpec.Codec.Basic

set_option autoImplicit false

/-! # Structures

A structure is written as an object with its fields in the order of their declaration; a field may
be left out when its value says nothing. It is read from an object with its fields in any order,
where keys that no field has are skipped, or from a list of the fields' values in order.

`Fields σ α` describes the fields of a structure: `α` is the tuple of their values, `σ` the tuple
of the values found so far. -/

namespace ComponentSpec

open Json (Fault Symbol)
open Json.Reader (Parsed skipBlanks)

/-! ## Fields -/

/-- One field of a structure. -/
structure Field (α : Type) where
  /-- The key of the field in an object. -/
  key : String
  codec : Codec α
  /-- The value of a field that is missing; without one it may not be. -/
  whenAbsent : Option α := none
  /-- Whether a value is left out of the written object. -/
  omits : α → Bool := fun _ => false

namespace Field

/-- A field that may not be missing. -/
def required {α : Type} (key : String) (codec : Codec α) : Field α where
  key := key
  codec := codec

/-- A field with a default. -/
def defaulted {α : Type} (key : String) (codec : Codec α) (a : α) : Field α where
  key := key
  codec := codec
  whenAbsent := some a

/-- A field that may be `null`, is so when it is missing, and is written also then. -/
def nullable {α : Type} (key : String) (codec : Codec α) : Field (Option α) :=
  defaulted key codec.option none

/-- A field that is missing, and not written, for `none`. -/
def optional {α : Type} (key : String) (codec : Codec α) : Field (Option α) :=
  { nullable key codec with omits := Option.isNone }

/-- A list that is missing, and not written, when it is empty. -/
def listed {α : Type} (key : String) (codec : Codec α) : Field (List α) :=
  { defaulted key codec.list [] with omits := List.isEmpty }

end Field

/-- The fields of a structure in order. -/
inductive Fields : Type → Type → Type 1 where
  | nil : Fields Unit Unit
  | cons {α σ β : Type} (field : Field α) (rest : Fields σ β) : Fields (Option α × σ) (α × β)

namespace Fields

/-- Nothing found yet. -/
def start : {σ α : Type} → Fields σ α → σ
  | _, _, .nil => ()
  | _, _, .cons _ rest => (none, rest.start)

/-- How many fields there are. -/
def size : {σ α : Type} → Fields σ α → Nat
  | _, _, .nil => 0
  | _, _, .cons _ rest => rest.size + 1

/-- The written entries. -/
def entries : {σ α : Type} → Fields σ α → α → List (String × Json)
  | _, _, .nil, () => []
  | _, _, .cons field rest, (a, b) =>
    if field.omits a then rest.entries b else (field.key, field.codec.write a) :: rest.entries b

/-- The values of all fields once the object has ended; the first field missing is the fault. -/
def settle : {σ α : Type} → Fields σ α → σ → Except Fault α
  | _, _, .nil, () => .ok ()
  | _, _, .cons field rest, (found, founds) => do
    match found.or field.whenAbsent with
    | none => .error (.missingField field.key)
    | some a => .ok (a, ← rest.settle founds)

/-! ## Reading the running text -/

/-- One entry of an object, from behind its key: a field's value is read once, the value of any
other key is skipped. -/
def readEntry : {σ α : Type} → Fields σ α → (depth : Nat) → String → σ → List Symbol →
    Except Fault (Parsed σ)
  | _, _, .nil, _, _, (), s => do .ok ((), ← Json.Reader.skipValue (← Json.Reader.colon s))
  | _, _, .cons field rest, depth, key, (found, founds), s =>
    if key = field.key then
      if found.isSome then .error (.duplicateField key)
      else do
        let (a, s) ← field.codec.read depth (← Json.Reader.colon s)
        .ok ((some a, founds), s)
    else do
      let (founds, s) ← rest.readEntry depth key founds s
      .ok ((found, founds), s)

/-- The values of all fields from the items of a list, the first of them the item number `index`. -/
def readItems (name : String) (total : Nat) : {σ α : Type} → Fields σ α → (depth : Nat) →
    (index : Nat) → List Symbol → Except Fault (Parsed α)
  | _, _, .nil, _, _, s => .ok ((), s)
  | _, _, .cons field rest, depth, index, s => do
    match ← Json.Reader.nextItem (index = 0) s with
    | some s =>
      let (a, s) ← field.codec.read depth s
      let (b, s) ← rest.readItems name total depth (index + 1) s
      .ok ((a, b), s)
    | none =>
      match field.whenAbsent with
      | none => .error (.shortStruct index name total)
      | some a =>
        let (b, s) ← rest.readItems name total depth (index + 1) s
        .ok ((a, b), s)

/-! ## Checking a value -/

/-- One entry of an object that has been read. -/
def checkEntry : {σ α : Type} → Fields σ α → String × Json → σ → Except Fault σ
  | _, _, .nil, _, () => .ok ()
  | _, _, .cons field rest, (key, v), (found, founds) =>
    if key = field.key then
      if found.isSome then .error (.duplicateField key)
      else do .ok (some (← field.codec.check v), founds)
    else do .ok (found, ← rest.checkEntry (key, v) founds)

/-- The entries of an object that has been read, one after the other. -/
def checkEntries {σ α : Type} (fields : Fields σ α) (es : List (String × Json)) :
    Except Fault α := do
  let founds ← es.foldlM (fun founds e => fields.checkEntry e founds) fields.start
  fields.settle founds

/-- The values of all fields from the items of a list that has been read, and the items left over.
-/
def checkItems (name : String) (total : Nat) : {σ α : Type} → Fields σ α → (index : Nat) →
    List Json → Except Fault (α × List Json)
  | _, _, .nil, _, vs => .ok ((), vs)
  | _, _, .cons field rest, index, v :: vs => do
    let a ← field.codec.check v
    let (b, vs) ← rest.checkItems name total (index + 1) vs
    .ok ((a, b), vs)
  | _, _, .cons field rest, index, [] =>
    match field.whenAbsent with
    | none => .error (.shortStruct index name total)
    | some a => do
      let (b, vs) ← rest.checkItems name total (index + 1) []
      .ok ((a, b), vs)

end Fields

/-! ## The codec -/

namespace Codec

/-- The structure `name` as the tuple of its fields. -/
def record {σ α : Type} (name : String) (fields : Fields σ α) : Codec α where
  write a := .object (fields.entries a)
  read depth s :=
    match skipBlanks s with
    | .char '[' :: rest => do
      let depth ← Json.Reader.enter depth
      let (a, s) ← fields.readItems name fields.size depth 0 rest
      .ok (a, ← Json.Reader.closeList s)
    | .char '\x7b' :: rest => do
      let depth ← Json.Reader.enter depth
      let (founds, s) ← Json.Reader.object (fields.readEntry depth) fields.start rest
      .ok (← fields.settle founds, s)
    | s => Json.Reader.refuse (.struct name) s
  check
    | .array vs => do
      let (a, left) ← fields.checkItems name fields.size 0 vs
      if left.isEmpty then .ok a else .error (.longStruct vs.length fields.size)
    | .object es => fields.checkEntries es
    | v => .error (.wrongType (.of v) (.struct name))

end Codec
end ComponentSpec
