import ComponentSpec.Decimal.Shortest
import ComponentSpec.Json.Basic
import ComponentSpec.Text.Hex

set_option autoImplicit false

/-! # Writing JSON

Two spellings of a value: `compact` without any blank, `pretty` with one item a line and two spaces
for each level. Both write an object's entries in their order and escape the same characters. -/

namespace ComponentSpec.Json

open ComponentSpec.Text (hexPadded)

/-! ## Strings -/

/-- A character between the quotes: quote, backslash and controls are escaped, nothing else. -/
def escapeChar (c : Char) : List Char :=
  if c = '"' then ['\\', '"']
  else if c = '\\' then ['\\', '\\']
  else if c = '\x08' then ['\\', 'b']
  else if c = '\x0c' then ['\\', 'f']
  else if c = '\n' then ['\\', 'n']
  else if c = '\r' then ['\\', 'r']
  else if c = '\t' then ['\\', 't']
  else if c.toNat < 32 then '\\' :: 'u' :: hexPadded 4 c.toNat
  else [c]

/-- A text in quotes. -/
def quoted (s : String) : List Char :=
  '"' :: s.toList.flatMap escapeChar ++ ['"']

/-! ## Compact -/

mutual

/-- The text of a value without blanks. -/
def compact : Json → List Char
  | .null => "null".toList
  | .bool true => "true".toList
  | .bool false => "false".toList
  | .integer n => Decimal.ofInt n
  | .float bits => Decimal.ofBits bits
  | .string s => quoted s
  | .array items => '[' :: compactItems items ++ [']']
  | .object entries => '\x7b' :: compactEntries entries ++ ['\x7d']

/-- Items with commas between them. -/
def compactItems : List Json → List Char
  | [] => []
  | [j] => j.compact
  | j :: rest => j.compact ++ ',' :: compactItems rest

/-- Entries with commas between them. -/
def compactEntries : List (String × Json) → List Char
  | [] => []
  | [(key, j)] => quoted key ++ ':' :: j.compact
  | (key, j) :: rest => quoted key ++ ':' :: (j.compact ++ ',' :: compactEntries rest)

end

/-- The text of a value without blanks. -/
def toCompactString (j : Json) : String :=
  String.ofList j.compact

/-! ## Pretty -/

/-- A new line at the given level. -/
def newLine (level : Nat) : List Char :=
  '\n' :: List.replicate (2 * level) ' '

mutual

/-- The text of a value whose lines stand at `level`; empty lists and objects stay on their line. -/
def pretty (level : Nat) : Json → List Char
  | .array [] => ['[', ']']
  | .array items => '[' :: prettyItems (level + 1) items ++ newLine level ++ [']']
  | .object [] => ['\x7b', '\x7d']
  | .object entries => '\x7b' :: prettyEntries (level + 1) entries ++ newLine level ++ ['\x7d']
  | .null => "null".toList
  | .bool true => "true".toList
  | .bool false => "false".toList
  | .integer n => Decimal.ofInt n
  | .float bits => Decimal.ofBits bits
  | .string s => quoted s

/-- Items on lines of their own. -/
def prettyItems (level : Nat) : List Json → List Char
  | [] => []
  | [j] => newLine level ++ j.pretty level
  | j :: rest => newLine level ++ j.pretty level ++ ',' :: prettyItems level rest

/-- Entries on lines of their own. -/
def prettyEntries (level : Nat) : List (String × Json) → List Char
  | [] => []
  | [(key, j)] => newLine level ++ quoted key ++ ':' :: ' ' :: j.pretty level
  | (key, j) :: rest =>
    newLine level ++ quoted key ++ ':' :: ' ' :: (j.pretty level ++ ',' :: prettyEntries level rest)

end

/-- The text of a value over lines. -/
def toPrettyString (j : Json) : String :=
  String.ofList (j.pretty 0)

end ComponentSpec.Json
