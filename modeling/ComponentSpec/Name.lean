import ComponentSpec.Codec.Basic
import ComponentSpec.Text.Blank

set_option autoImplicit false

/-! # Names

Type names, as written in a declaration, and qualified names, whose last dot parts the package
from the simple name. A component takes its name from its spec.

Main statement: `packagePart_append_simpleName`, the two parts of a qualified name make it up. -/

namespace ComponentSpec

/-! ## Type names -/

/-- A declared type, as written. -/
structure TypeName where
  text : String
  deriving DecidableEq, Inhabited

namespace TypeName

/-- The type as the one argument of a container. -/
def wrappedIn (container : String) (t : TypeName) : TypeName :=
  ⟨container ++ "<" ++ t.text ++ ">"⟩

/-- The return type of a method that declares none. -/
def void : TypeName :=
  ⟨"void"⟩

def codec : Codec TypeName :=
  Codec.text.as mk text

end TypeName

/-! ## Qualified names -/

namespace Name

/-- What follows the last dot. -/
def simpleName (qualified : String) : String :=
  String.ofList (qualified.toList.reverse.takeWhile (· ≠ '.')).reverse

/-- The package through the last dot, empty without a dot. -/
def packagePart (qualified : String) : String :=
  String.ofList (qualified.toList.reverse.dropWhile (· ≠ '.')).reverse

theorem packagePart_append_simpleName (q : String) : packagePart q ++ simpleName q = q := by
  rw [packagePart, simpleName, ← String.ofList_append, ← List.reverse_append,
    List.takeWhile_append_dropWhile, List.reverse_reverse, String.ofList_toList]

/-- How the names of specs end. -/
def specSuffix : String :=
  "Spec"

/-- A text without the given ending; without it, the text itself. -/
def dropEnding (ending s : String) : String :=
  if ending.toList.isSuffixOf s.toList then
    String.ofList (s.toList.take (s.toList.length - ending.toList.length))
  else s

/-- The qualified name of a spec's component: an override that is not blank replaces the simple
name, else the ending of specs is dropped once. -/
def component (qualified : String) (simple : Option String) : String :=
  match simple.filter fun n => !Text.isBlank n with
  | some n => packagePart qualified ++ n
  | none => dropEnding specSuffix qualified

end Name
end ComponentSpec
