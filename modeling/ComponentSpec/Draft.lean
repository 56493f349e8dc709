import ComponentSpec.Error
import ComponentSpec.Method.Synthetic
import ComponentSpec.Model.Basic
import ComponentSpec.Props
import ComponentSpec.Values

set_option autoImplicit false

/-! # Drafts

A draft gathers what a model is built from, one setting at a time. Building checks that nothing is
missing and that the props come from one place only: from the delegate methods, or given as they
are. -/

namespace ComponentSpec

/-- What a model is built from. -/
structure Draft where
  qualifiedName : Option String := none
  componentSimpleName : Option String := none
  componentClass : Option TypeName := none
  delegateMethods : Option (List DelegateMethod) := none
  eventMethods : List EventMethod := []
  triggerMethods : List EventMethod := []
  updateMethods : List UpdateMethod := []
  /-- Props to be taken as they are. -/
  props : Option (List PropParam) := none
  /-- Inject props to be taken as they are. -/
  injectProps : Option (List InjectParam) := none
  cache : NameCache := {}
  typeVariables : List TypeVariable := []
  propDefaults : List PropDefault := []
  eventDeclarations : List EventDeclaration := []
  builderMethods : List BuilderMethod := []
  classAnnotations : List String := []
  tags : List Tag := []
  classDoc : String := ""
  propDocs : List PropDoc := []
  isPublic : Bool := false
  injectionHelper : Option InjectionHelper := none
  elementKind : ElementKind := .classElement
  anchor : Option SourceAnchor := none
  rules : List SyntheticRule := SyntheticRule.standard

/-! ## Settings -/

/-- One thing told to a draft. -/
inductive Setting where
  | qualifiedName (name : String)
  | componentSimpleName (name : String)
  | componentClass (base : TypeName)
  | delegateMethods (methods : List DelegateMethod)
  | eventMethods (methods : List EventMethod)
  | triggerMethods (methods : List EventMethod)
  | updateMethods (methods : List UpdateMethod)
  | props (props : List PropParam)
  | injectProps (props : List InjectParam)
  | cache (cache : NameCache)
  | typeVariables (vars : List TypeVariable)
  | propDefaults (defaults : List PropDefault)
  | eventDeclarations (declarations : List EventDeclaration)
  | builderMethods (methods : List BuilderMethod)
  | classAnnotations (texts : List String)
  | tags (tags : List Tag)
  | classDoc (doc : String)
  | propDocs (docs : List PropDoc)
  | isPublic (b : Bool)
  | injectionHelper (helper : InjectionHelper)
  | elementKind (kind : ElementKind)
  | anchor (anchor : SourceAnchor)
  | rules (rules : List SyntheticRule)

namespace Draft

/-- The draft after a setting, which replaces what was set before. -/
def set (d : Draft) : Setting → Draft
  | .qualifiedName name => { d with qualifiedName := some name }
  | .componentSimpleName name => { d with componentSimpleName := some name }
  | .componentClass c => { d with componentClass := some c }
  | .delegateMethods ms => { d with delegateMethods := some ms }
  | .eventMethods ms => { d with eventMethods := ms }
  | .triggerMethods ms => { d with triggerMethods := ms }
  | .updateMethods ms => { d with updateMethods := ms }
  | .props ps => { d with props := some ps }
  | .injectProps ps => { d with injectProps := some ps }
  | .cache c => { d with cache := c }
  | .typeVariables vs => { d with typeVariables := vs }
  | .propDefaults ds => { d with propDefaults := ds }
  | .eventDeclarations ds => { d with eventDeclarations := ds }
  | .builderMethods ms => { d with builderMethods := ms }
  | .classAnnotations ts => { d with classAnnotations := ts }
  | .tags ts => { d with tags := ts }
  | .classDoc doc => { d with classDoc := doc }
  | .propDocs docs => { d with propDocs := docs }
  | .isPublic b => { d with isPublic := b }
  | .injectionHelper h => { d with injectionHelper := some h }
  | .elementKind k => { d with elementKind := k }
  | .anchor a => { d with anchor := some a }
  | .rules rs => { d with rules := rs }

/-- The draft that a list of settings makes, each after the one before. -/
def ofSettings (settings : List Setting) : Draft :=
  settings.foldl set {}

/-! ## Checks -/

/-- Why a draft cannot be built. -/
inductive Flaw where
  /-- No qualified name, or a blank one. -/
  | noName
  /-- Neither delegate methods nor props. -/
  | noProps
  /-- Delegate methods and props. -/
  | twoSourcesOfProps
  | noAnchor
  deriving DecidableEq

def Flaw.message : Flaw → String
  | .noName => "must specify a qualified spec name"
  | .noProps => "must specify delegate methods or a pre-computed prop list"
  | .twoSourcesOfProps => "must not provide both props and delegate methods"
  | .noAnchor => "must specify a represented object"

/-- The error of a draft that cannot be built. -/
def Flaw.toError (f : Flaw) : Error :=
  .configuration f.message

/-- The qualified name and the anchor of a draft without flaws. Of several flaws the first counts
in the order of the name, the props and the anchor. -/
def checked (d : Draft) : Except Flaw (String × SourceAnchor) :=
  match d.qualifiedName.filter fun name => !Text.isBlank name with
  | none => .error .noName
  | some name =>
    match d.delegateMethods, d.props with
    | none, none => .error .noProps
    | some _, some _ => .error .twoSourcesOfProps
    | _, _ =>
      match d.anchor with
      | none => .error .noAnchor
      | some anchor => .ok (name, anchor)

/-! ## Building -/

/-- The methods of a draft by group, synthetic ones included. -/
def groups (d : Draft) : MethodGroups :=
  let delegates := d.delegateMethods.getD []
  { delegate := delegates
    event := SyntheticRule.combine d.rules delegates d.eventMethods
    trigger := d.triggerMethods
    update := d.updateMethods }

/-- A list that was given and has entries, or the derived one. -/
def orDerived {α : Type} (given : Option (List α)) (derived : List α) : List α :=
  match given with
  | some (a :: as) => a :: as
  | _ => derived

/-- The final props: those given, or else derived. -/
def finalProps (d : Draft) : List PropParam :=
  orDerived d.props (ComponentSpec.finalProps d.groups.rawProps d.groups.propDiffs d.cache)

/-- The inject props before they take their cached names. -/
def rawInjectProps (d : Draft) : List InjectParam :=
  firstOfEach d.groups.scannedInjectProps

/-- The final inject props: those given, or else derived. -/
def finalInjectProps (d : Draft) : List InjectParam :=
  orDerived d.injectProps
    (ComponentSpec.finalInjectProps d.rawInjectProps d.cache d.finalProps.length)

/-- The model of a draft, given its qualified name and anchor. -/
def modelOf (d : Draft) (qualified : String) (anchor : SourceAnchor) : Model :=
  let component := Name.component qualified d.componentSimpleName
  { specName := Name.simpleName qualified
    specTypeName := ⟨qualified⟩
    componentName := Name.simpleName component
    componentTypeName := ⟨component⟩
    componentClass := d.componentClass
    delegateMethods := d.groups.delegate
    eventMethods := d.groups.event
    triggerMethods := d.triggerMethods
    updateMethods := d.updateMethods
    rawProps := d.groups.rawProps
    props := d.finalProps
    rawInjectProps := d.rawInjectProps
    injectProps := d.finalInjectProps
    propDefaults := d.propDefaults
    typeVariables := d.typeVariables
    stateValues := d.groups.stateValues
    stageInputs := d.groups.stageInputs
    treeValues := d.groups.treeValues
    eventDeclarations := d.eventDeclarations
    builderMethods := d.builderMethods
    renderDiffs := d.groups.renderDiffs
    classAnnotations := d.classAnnotations
    tags := d.tags
    classDoc := d.classDoc
    propDocs := d.propDocs
    isPublic := d.isPublic
    injectionHelper := d.injectionHelper
    elementKind := d.elementKind
    anchor := anchor }

/-- The model of a draft, or its first flaw. -/
def build (d : Draft) : Except Flaw Model := do
  let (qualified, anchor) ← d.checked
  .ok (d.modelOf qualified anchor)

end Draft
end ComponentSpec
