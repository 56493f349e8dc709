import ComponentSpec.Draft
import ComponentSpec.Param.Marked

set_option autoImplicit false

/-! # Documents

A document is a spec as a front-end hands it over: its parameters carry markers and are not
classified yet. A document makes a draft, and the draft a model. -/

namespace ComponentSpec

/-- A delegate method with marked parameters. -/
structure DelegateEntry where
  hook : Hook
  name : String
  /-- No declared type stands for `void`. -/
  returnType : Option TypeName := none
  params : List MarkedParam := []
  deriving DecidableEq

/-- An event or trigger method with marked parameters. -/
structure EventEntry where
  name : String
  event : EventDeclaration
  params : List MarkedParam := []
  deriving DecidableEq

/-- An update method with marked parameters. -/
structure UpdateEntry where
  name : String
  isLazy : Bool := false
  params : List MarkedParam := []
  deriving DecidableEq

/-- A spec as a front-end hands it over. -/
structure Document where
  qualifiedName : String
  componentSimpleName : Option String := none
  componentClass : Option TypeName := none
  origin : Option SourceAnchor := none
  /-- Missing for specs whose props are given as they are. -/
  delegateMethods : Option (List DelegateEntry) := none
  props : Option (List PropParam) := none
  eventMethods : List EventEntry := []
  triggerMethods : List EventEntry := []
  updateMethods : List UpdateEntry := []
  cache : NameCache := {}
  typeVariables : List TypeVariable := []
  propDefaults : List PropDefault := []
  eventDeclarations : List EventDeclaration := []
  builderMethods : List BuilderMethod := []
  classAnnotations : List String := []
  tags : List Tag := []
  classDoc : String := ""
  propDocs : List PropDoc := []
  isPublic : Bool := false
  injectionHelper : Option InjectionHelper := none
  elementKind : ElementKind := .classElement
  deriving DecidableEq

/-! ## Classification -/

def DelegateEntry.toMethod (e : DelegateEntry) : DelegateMethod :=
  { hook := e.hook
    name := e.name
    returnType := e.returnType.getD .void
    params := e.params.map MarkedParam.toParam }

def EventEntry.toMethod (e : EventEntry) : EventMethod :=
  .handling e.event e.name (e.params.map MarkedParam.toParam)

def UpdateEntry.toMethod (e : UpdateEntry) : UpdateMethod :=
  { isLazy := e.isLazy
    name := e.name
    params := e.params.map MarkedParam.toParam }

namespace Document

/-- The draft of a document, with all parameters classified. -/
def toDraft (d : Document) : Draft :=
  { qualifiedName := some d.qualifiedName
    componentSimpleName := d.componentSimpleName
    componentClass := d.componentClass
    delegateMethods := d.delegateMethods.map (·.map DelegateEntry.toMethod)
    eventMethods := d.eventMethods.map EventEntry.toMethod
    triggerMethods := d.triggerMethods.map EventEntry.toMethod
    updateMethods := d.updateMethods.map UpdateEntry.toMethod
    props := d.props
    cache := d.cache
    typeVariables := d.typeVariables
    propDefaults := d.propDefaults
    eventDeclarations := d.eventDeclarations
    builderMethods := d.builderMethods
    classAnnotations := d.classAnnotations
    tags := d.tags
    classDoc := d.classDoc
    propDocs := d.propDocs
    isPublic := d.isPublic
    injectionHelper := d.injectionHelper
    elementKind := d.elementKind
    anchor := d.origin }

/-- The model of a document, or the first flaw of its draft. -/
def build (d : Document) : Except Draft.Flaw Model :=
  d.toDraft.build

end Document
end ComponentSpec
