import ComponentSpec.Json.Skip

set_option autoImplicit false

/-! # Lists, objects and values

`items` and `entries` are the loops over the contents of a list and of an object; what they do
with an item or a key is an argument, so that typed readers share them. Their bound is the length
of the input, since every round takes a symbol. `value` reads a value of any shape; its bound is
the number of lists and objects that may still be opened. -/

namespace ComponentSpec.Json.Reader

/-! ## The contents of a list -/

/-- The input at the next item of a list, or `none` at the closing bracket. All items but the
first have a comma before them. -/
def nextItem (first : Bool) (s : List Symbol) : Except Fault (Option (List Symbol)) :=
  match skipBlanks s with
  | [] => .error (.endOfInput .list)
  | .char ']' :: _ => .ok none
  | c :: rest =>
    if first then .ok (some (c :: rest))
    else if c = .char ',' then
      match skipBlanks rest with
      | [] => .error (.endOfInput .value)
      | .char ']' :: _ => .error .trailingComma
      | rest => .ok (some rest)
    else .error .expectedListEnd

/-- The items up to the closing bracket, which stays. -/
def items {α : Type} (item : List Symbol → Except Fault (Parsed α)) :
    (fuel : Nat) → (first : Bool) → List Symbol → Except Fault (Parsed (List α))
  | 0, _, _ => .error (.endOfInput .list)
  | fuel + 1, first, s => do
    match ← nextItem first s with
    | none => .ok ([], s)
    | some s =>
      let (a, s) ← item s
      let (as, s) ← items item fuel false s
      .ok (a :: as, s)

/-- The input behind the closing bracket of a list whose reader has had all it wants. -/
def closeList (s : List Symbol) : Except Fault (List Symbol) :=
  match skipBlanks s with
  | [] => .error (.endOfInput .list)
  | .char ']' :: rest => .ok rest
  | .char ',' :: rest =>
    match skipBlanks rest with
    | .char ']' :: _ => .error .trailingComma
    | _ => .error .trailingText
  | _ => .error .trailingText

/-- A list from behind its opening bracket. -/
def list {α : Type} (item : List Symbol → Except Fault (Parsed α)) (s : List Symbol) :
    Except Fault (Parsed (List α)) := do
  let (as, s) ← items item (s.length + 1) true s
  .ok (as, ← closeList s)

/-! ## The contents of an object -/

/-- The input behind the opening quote of the next key. All entries but the first have a comma
before them. -/
def nextKey (first : Bool) (s : List Symbol) : Except Fault (List Symbol) :=
  match s with
  | .char '"' :: rest => if first then .ok rest else .error .expectedObjectEnd
  | .char ',' :: rest =>
    if first then .error .keyNotString
    else
      match skipBlanks rest with
      | [] => .error (.endOfInput .value)
      | .char '"' :: rest => .ok rest
      | .char '\x7d' :: _ => .error .trailingComma
      | _ => .error .keyNotString
  | _ => .error (if first then .keyNotString else .expectedObjectEnd)

/-- The entries of an object through its closing bracket. `step` takes a key and goes on from
behind it, changing what has been gathered. -/
def entries {σ : Type} (step : String → σ → List Symbol → Except Fault (Parsed σ)) :
    (fuel : Nat) → (first : Bool) → σ → List Symbol → Except Fault (Parsed σ)
  | 0, _, _, _ => .error (.endOfInput .object)
  | fuel + 1, first, gathered, s =>
    match skipBlanks s with
    | [] => .error (.endOfInput .object)
    | .char '\x7d' :: rest => .ok (gathered, rest)
    | s => do
      let s ← nextKey first s
      let (key, s) ← string s
      let (gathered, s) ← step key gathered s
      entries step fuel false gathered s

/-- An object from behind its opening bracket. -/
def object {σ : Type} (step : String → σ → List Symbol → Except Fault (Parsed σ)) (start : σ)
    (s : List Symbol) : Except Fault (Parsed σ) :=
  entries step (s.length + 1) true start s

/-! ## Values -/

/-- How many lists and objects may be open at once. -/
def maxDepth : Nat := 127

/-- The number of lists and objects that may be opened inside one that is being opened. -/
def enter : (depth : Nat) → Except Fault Nat
  | 0 => .error .tooDeep
  | depth + 1 => .ok depth

/-- A value that is neither list nor object. -/
def scalar (s : List Symbol) : Except Fault (Parsed Json) :=
  match s with
  | .char 'n' :: rest => do .ok (.null, ← literal "ull".toList rest)
  | .char 't' :: rest => do .ok (.bool true, ← literal "rue".toList rest)
  | .char 'f' :: rest => do .ok (.bool false, ← literal "alse".toList rest)
  | .char '"' :: rest => do
    let (text, rest) ← string rest
    .ok (.string text, rest)
  | .char '-' :: rest => number true rest
  | c :: _ => if (digitOf? c).isSome then number false s else .error .expectedValue
  | [] => .error (.endOfInput .value)

/-- As much of a value as tells its kind: a scalar whole, of a list or an object its opening
bracket. -/
def head (s : List Symbol) : Except Fault (Parsed Json) :=
  match skipBlanks s with
  | .char '[' :: rest => .ok (.array [], rest)
  | .char '\x7b' :: rest => .ok (.object [], rest)
  | s => scalar s

/-- The fault of a value of the wrong kind; a scalar's own flaw comes before it. -/
def refuse {α : Type} (wanted : Wanted) (s : List Symbol) : Except Fault α := do
  let (v, _) ← head s
  .error (.wrongType (.of v) wanted)

/-- A value of any shape, inside which `depth` lists and objects may be open at once. -/
def value : (depth : Nat) → List Symbol → Except Fault (Parsed Json)
  | 0, s =>
    match skipBlanks s with
    | .char '[' :: _ => .error .tooDeep
    | .char '\x7b' :: _ => .error .tooDeep
    | s => scalar s
  | depth + 1, s =>
    match skipBlanks s with
    | .char '[' :: rest => do
      let (vs, rest) ← list (value depth) rest
      .ok (.array vs, rest)
    | .char '\x7b' :: rest => do
      let (es, rest) ← object (fun key es s => do
        let (v, s) ← value depth (← colon s)
        .ok (es ++ [(key, v)], s)) [] rest
      .ok (.object es, rest)
    | s => scalar s

/-- What is read, if only blanks follow it. -/
def whole {α : Type} (read : List Symbol → Except Fault (Parsed α)) (s : List Symbol) :
    Except Fault α := do
  let (a, rest) ← read s
  if (skipBlanks rest).isEmpty then .ok a else .error .trailingText

end ComponentSpec.Json.Reader
