import ComponentSpec.Text.Combining
import ComponentSpec.Text.Hex
import ComponentSpec.Text.Unprintable

set_option autoImplicit false

/-! # Text quoted for a message

A text that a message shows stands in double quotes. What would break the quotes or could not be
seen is escaped: quote and backslash by a backslash, four controls by a letter or digit, every
other character without a visible glyph of its own by its code point. -/

namespace ComponentSpec.Text

/-- The code point of `c` in braces. -/
def codePointEscape (c : Char) : List Char :=
  '\\' :: 'u' :: '\x7b' :: hexShort c.toNat ++ ['\x7d']

/-- One character as it stands between the quotes. -/
def shownChar (c : Char) : List Char :=
  if c = '"' then ['\\', '"']
  else if c = '\\' then ['\\', '\\']
  else if c = '\n' then ['\\', 'n']
  else if c = '\r' then ['\\', 'r']
  else if c = '\t' then ['\\', 't']
  else if c.toNat = 0 then ['\\', '0']
  else if isCombining c || isUnprintable c then codePointEscape c
  else [c]

/-- A text in double quotes, as a message shows it. -/
def shown (s : String) : String :=
  String.ofList ('"' :: s.toList.flatMap shownChar ++ ['"'])

end ComponentSpec.Text
