import ComponentSpec.Codec.Choice
import ComponentSpec.Codec.Record
import ComponentSpec.Name

set_option autoImplicit false

/-! # What a spec says besides its methods

Defaults, type variables, documentation and the like, which a model hands on as they are, with the
JSON form of each. -/

namespace ComponentSpec

open Codec (text word)

/-! ## Declarations -/

/-- The default of a prop. -/
structure PropDefault where
  name : String
  typeName : TypeName
  /-- The expression for the value. -/
  value : String
  deriving DecidableEq

/-- A setter to be added to the component's builder. -/
structure BuilderMethod where
  name : String
  paramType : TypeName
  deriving DecidableEq

/-- A type that tags the component. -/
structure Tag where
  name : TypeName
  deriving DecidableEq

/-- The documentation of a prop. -/
structure PropDoc where
  name : String
  doc : String
  deriving DecidableEq

/-- A type variable of the spec. -/
structure TypeVariable where
  name : String
  bounds : List TypeName := []
  deriving DecidableEq

/-- Where a spec was declared. -/
structure SourceAnchor where
  /-- A file, or another label. -/
  origin : String
  line : Option UInt32 := none
  column : Option UInt32 := none
  deriving DecidableEq

/-- How the component is built by dependency injection. -/
structure InjectionHelper where
  provider : String
  deriving DecidableEq

/-- The kind of declaration that a spec is. -/
inductive ElementKind where
  | classElement
  | singleton
  deriving DecidableEq

/-! ## JSON forms -/

def PropDefault.codec : Codec PropDefault :=
  (Codec.record "PropDefaultModel"
    (.cons (.required "name" text) <| .cons (.required "type_name" TypeName.codec) <|
      .cons (.required "value" text) .nil)).as
    (fun (name, typeName, value, ()) => ⟨name, typeName, value⟩)
    (fun d => (d.name, d.typeName, d.value, ()))

def BuilderMethod.codec : Codec BuilderMethod :=
  (Codec.record "BuilderMethodModel"
    (.cons (.required "name" text) <| .cons (.required "param_type" TypeName.codec) .nil)).as
    (fun (name, paramType, ()) => ⟨name, paramType⟩) (fun m => (m.name, m.paramType, ()))

def Tag.codec : Codec Tag :=
  (Codec.record "TagModel" (.cons (.required "name" TypeName.codec) .nil)).as
    (fun (name, ()) => ⟨name⟩) (fun t => (t.name, ()))

def PropDoc.codec : Codec PropDoc :=
  (Codec.record "PropJavadocModel"
    (.cons (.required "name" text) <| .cons (.required "javadoc" text) .nil)).as
    (fun (name, doc, ()) => ⟨name, doc⟩) (fun d => (d.name, d.doc, ()))

def TypeVariable.codec : Codec TypeVariable :=
  (Codec.record "TypeVariable"
    (.cons (.required "name" text) <| .cons (.listed "bounds" TypeName.codec) .nil)).as
    (fun (name, bounds, ()) => ⟨name, bounds⟩) (fun v => (v.name, v.bounds, ()))

def SourceAnchor.codec : Codec SourceAnchor :=
  (Codec.record "SourceAnchor"
    (.cons (.required "origin" text) <| .cons (.optional "line" word) <|
      .cons (.optional "column" word) .nil)).as
    (fun (origin, line, column, ()) => ⟨origin, line, column⟩)
    (fun a => (a.origin, a.line, a.column, ()))

def InjectionHelper.codec : Codec InjectionHelper :=
  (Codec.record "DependencyInjectionHelper" (.cons (.required "provider" text) .nil)).as
    (fun (provider, ()) => ⟨provider⟩) (fun h => (h.provider, ()))

namespace ElementKind

def all : List ElementKind :=
  [classElement, singleton]

def name : ElementKind → String
  | classElement => "class"
  | singleton => "singleton"

def codec : Codec ElementKind :=
  Codec.names all name

end ElementKind
end ComponentSpec
