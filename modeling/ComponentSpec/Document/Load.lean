import ComponentSpec.Document.Codec
import ComponentSpec.Files.Basic

set_option autoImplicit false

/-! # Loading documents

A document in a file. A path that cannot be opened is an error of its own; a directory can be
opened but not read, so it counts as a document that cannot be read. -/

namespace ComponentSpec

/-- A path in quotes. -/
def quotedPath (path : String) : String :=
  "'" ++ path ++ "'"

/-- The document in a file. -/
def Document.load {m : Type → Type} [Monad m] (files : Files m) (path : String) :
    m (Except Error Document) := do
  match ← files.read path with
  | .ok bytes => return Document.ofBytes bytes
  | .error .isDirectory =>
    return .error (.serialization
      ("parse spec document JSON: " ++ PathFault.message .isDirectory))
  | .error f => return .error (.other s!"open spec document {quotedPath path}: {f.message}")

end ComponentSpec
