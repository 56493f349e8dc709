import ComponentSpec.Model.Basic
import ComponentSpec.Text.Hex

set_option autoImplicit false

/-! # Fingerprints

The surface of a model is written as a run of bytes: numbers as eight bytes, the lowest first,
texts with their length before them. Two lanes of 64 bits take the same bytes from different
seeds, each byte by an exclusive or and a multiplication, and together they are the model's
fingerprint. -/

namespace ComponentSpec

/-! ## Lanes -/

namespace Lane

/-- The multiplier of every step. -/
def prime : UInt64 :=
  0x100000001b3

/-- The seed of the high lane. -/
def highSeed : UInt64 :=
  0xcbf29ce484222325

/-- The seed of the low lane. -/
def lowSeed : UInt64 :=
  0x9ae16a3b2f90404f

/-- A lane after one byte. -/
def step (lane : UInt64) (b : UInt8) : UInt64 :=
  (lane ^^^ b.toUInt64) * prime

/-- A lane after a run of bytes. -/
def run (lane : UInt64) (bytes : List UInt8) : UInt64 :=
  bytes.foldl step lane

theorem run_append (lane : UInt64) (a b : List UInt8) : run lane (a ++ b) = run (run lane a) b :=
  List.foldl_append

end Lane

/-- A fingerprint of 128 bits. -/
structure Fingerprint where
  hi : UInt64
  lo : UInt64
  deriving DecidableEq

namespace Fingerprint

/-- Both lanes over a run of bytes. -/
def ofBytes (bytes : List UInt8) : Fingerprint :=
  ⟨Lane.run Lane.highSeed bytes, Lane.run Lane.lowSeed bytes⟩

/-- The 32 hexadecimal digits of a fingerprint. -/
def text (f : Fingerprint) : String :=
  String.ofList (Text.hexPadded 16 f.hi.toNat ++ Text.hexPadded 16 f.lo.toNat)

end Fingerprint

/-! ## The surface as bytes -/

namespace Surface

/-- The lowest `width` bytes of a number, the lowest first. -/
def littleEndian : (width : Nat) → (n : Nat) → List UInt8
  | 0, _ => []
  | width + 1, n => n.toUInt8 :: littleEndian width (n / 256)

@[simp] theorem length_littleEndian (width n : Nat) : (littleEndian width n).length = width := by
  induction width generalizing n with
  | zero => rfl
  | succ width ih => simp [littleEndian, ih]

/-- A number in eight bytes. -/
def number (n : Nat) : List UInt8 :=
  littleEndian 8 n

/-- The bytes of a text, their number first. -/
def text (s : String) : List UInt8 :=
  let bytes := s.toList.flatMap String.utf8EncodeChar
  number bytes.length ++ bytes

/-- Name and type of a declaration. -/
def declared {α : Type} [Declared α] (a : α) : List UInt8 :=
  text (Declared.name a) ++ text (Declared.typeName a).text

/-- A list of declarations behind its tag and its length. -/
def listing {α : Type} [Declared α] (tag : UInt8) (as : List α) : List UInt8 :=
  tag :: (number as.length ++ as.flatMap declared)

/-- A truth value in one byte. -/
def flag (b : Bool) : UInt8 :=
  if b then 1 else 0

/-- The bytes of a model's surface. -/
def ofModel (m : Model) : List UInt8 :=
  text m.specTypeName.text ++ text m.componentTypeName.text
    ++ listing 1 m.props ++ m.props.map (fun p => flag p.optional)
    ++ listing 2 m.injectProps
    ++ listing 3 m.stateValues ++ m.stateValues.map (fun s => flag s.canUpdateLazily)
    ++ listing 4 m.stageInputs ++ listing 5 m.treeValues ++ listing 6 m.renderDiffs
    ++ 7 :: number m.eventMethods.length
    ++ m.eventMethods.flatMap (fun e => text e.name ++ text e.event.name.text)
    ++ number m.delegateMethods.length ++ m.delegateMethods.flatMap (fun d => text d.name)

end Surface

/-- The fingerprint of a model's surface. -/
def Model.fingerprint (m : Model) : Fingerprint :=
  .ofBytes (Surface.ofModel m)

end ComponentSpec
