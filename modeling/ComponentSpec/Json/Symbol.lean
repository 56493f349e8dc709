set_option autoImplicit false

/-! # Input symbols

JSON text comes as a `String` or as bytes. Both become a list of symbols, the characters, and for
bytes that are no UTF-8 the strays between them. A stray never swallows an ASCII byte, so the
structure of a text can be read around it.

Main statement: `ofBytes_utf8Encode`, the bytes of a text give the symbols of the text. -/

namespace ComponentSpec.Json

/-- A character of the input, or a byte that belongs to none. -/
inductive Symbol where
  | char (c : Char)
  | stray (b : UInt8)
  deriving DecidableEq

namespace Symbol

/-- How many bytes of input the symbol takes. -/
def byteSize : Symbol → Nat
  | .char c => c.utf8Size
  | .stray _ => 1

/-- The character, unless the symbol is a stray. -/
def char? : Symbol → Option Char
  | .char c => some c
  | .stray _ => none

/-- The symbols of a list of characters. -/
def ofChars (cs : List Char) : List Symbol :=
  cs.map .char

@[simp] theorem ofChars_nil : ofChars [] = [] :=
  rfl

@[simp] theorem ofChars_cons (c : Char) (cs : List Char) :
    ofChars (c :: cs) = .char c :: ofChars cs :=
  rfl

@[simp] theorem ofChars_append (cs ds : List Char) :
    ofChars (cs ++ ds) = ofChars cs ++ ofChars ds :=
  List.map_append

/-- The symbols of a text. -/
def ofText (s : String) : List Symbol :=
  ofChars s.toList

/-- The character that the bytes begin with, if they begin with a whole one. -/
def firstChar? (bytes : List UInt8) : Option Char :=
  (bytes.take 4).toByteArray.utf8DecodeChar? 0

/-- The symbols of a run of bytes. The first argument counts the bytes still to be stepped over,
which belong to the character before. -/
def ofBytesFrom : (skip : Nat) → List UInt8 → List Symbol
  | _, [] => []
  | skip + 1, _ :: rest => ofBytesFrom skip rest
  | 0, b :: rest =>
    match firstChar? (b :: rest) with
    | some c => .char c :: ofBytesFrom (c.utf8Size - 1) rest
    | none => .stray b :: ofBytesFrom 0 rest

/-- The symbols of a run of bytes. -/
def ofBytes (bytes : List UInt8) : List Symbol :=
  ofBytesFrom 0 bytes

/-! ## Bytes of a text -/

theorem firstChar?_utf8EncodeChar (c : Char) (rest : List UInt8) :
    firstChar? (String.utf8EncodeChar c ++ rest) = some c := by
  have hle := c.utf8Size_le_four
  have hlen := String.length_utf8EncodeChar c
  unfold firstChar?
  rw [List.take_append, List.take_of_length_le (by omega), List.toByteArray_append]
  have h : ∀ b : ByteArray, ([c].utf8Encode ++ b).utf8DecodeChar? 0 = some c :=
    fun _ => List.utf8DecodeChar?_utf8Encode_singleton_append
  simpa [List.utf8Encode] using h (rest.take (4 - (String.utf8EncodeChar c).length)).toByteArray

theorem ofBytesFrom_append (pre rest : List UInt8) :
    ofBytesFrom pre.length (pre ++ rest) = ofBytesFrom 0 rest := by
  induction pre with
  | nil => rfl
  | cons b pre ih => simpa [ofBytesFrom] using ih

theorem ofBytes_utf8EncodeChar (c : Char) (rest : List UInt8) :
    ofBytes (String.utf8EncodeChar c ++ rest) = .char c :: ofBytes rest := by
  have hlen := String.length_utf8EncodeChar c
  have hpos := c.utf8Size_pos
  have hfirst := firstChar?_utf8EncodeChar c rest
  cases hb : String.utf8EncodeChar c with
  | nil => simp [hb] at hlen; omega
  | cons b bs =>
    rw [hb] at hfirst hlen
    have hsize : c.utf8Size - 1 = bs.length := by simp at hlen; omega
    simp only [List.cons_append] at hfirst
    simp only [ofBytes, List.cons_append, ofBytesFrom, hfirst, hsize, ofBytesFrom_append]

/-- The bytes of a text give the symbols of the text. -/
theorem ofBytes_utf8Encode (cs : List Char) :
    ofBytes (cs.flatMap String.utf8EncodeChar) = ofChars cs := by
  induction cs with
  | nil => rfl
  | cons c cs ih => rw [List.flatMap_cons, ofBytes_utf8EncodeChar, ih]; rfl

end Symbol
end ComponentSpec.Json
