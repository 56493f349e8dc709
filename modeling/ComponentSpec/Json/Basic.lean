set_option autoImplicit false

/-! # JSON values

Objects keep their entries in order and may repeat a key. Numbers without point and exponent are
integers; every other number is a double, kept as its 64 bits so that values can be compared. -/

namespace ComponentSpec

/-- A JSON value. -/
inductive Json where
  | null
  | bool (b : Bool)
  | integer (n : Int)
  | float (bits : UInt64)
  | string (s : String)
  | array (items : List Json)
  | object (entries : List (String × Json))
  deriving Inhabited

namespace Json

/-- A list of texts. -/
def strings (ss : List String) : Json :=
  .array (ss.map .string)

/-- A natural number. -/
def natural (n : Nat) : Json :=
  .integer n

/-- The value of a present text, `null` for an absent one. -/
def optional {α : Type} (f : α → Json) : Option α → Json
  | none => .null
  | some a => f a

/-- An object with one more entry in front; other values stay as they are. -/
def withEntry (key : String) (v : Json) : Json → Json
  | .object entries => .object ((key, v) :: entries)
  | j => j

end Json
end ComponentSpec
