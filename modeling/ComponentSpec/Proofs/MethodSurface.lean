import ComponentSpec.Proofs.Roles
import ComponentSpec.Proofs.Surface

set_option autoImplicit false

/-! # Methods in the surface

Of its methods a surface lists the event methods, with the types of their events, and the delegate
methods. Trigger and update methods are in it only through what their parameters declare, so two
specs that handle other triggers may well have the same fingerprint.
`Surface.ofModel_withMethods_ne_iff` says exactly which changes of methods the bytes tell. -/

namespace ComponentSpec

/-! ## Models with other methods -/

/-- The model with other methods, and with all that was derived left as it was. -/
def Model.withMethods (m : Model) (g : MethodGroups) : Model :=
  { m with
    delegateMethods := g.delegate
    eventMethods := g.event
    triggerMethods := g.trigger
    updateMethods := g.update }

/-- The groups with other trigger and update methods. -/
def MethodGroups.withHandlers (g : MethodGroups) (triggers : List EventMethod)
    (updates : List UpdateMethod) : MethodGroups :=
  { g with trigger := triggers, update := updates }

namespace Model

theorem hashedSurface_withMethods (m : Model) (g : MethodGroups) :
    (m.withMethods g).hashedSurface
      = { m.hashedSurface with
          events := g.event.map fun e => (e.name, e.event.name)
          delegates := g.delegate.map (·.name) } :=
  rfl

theorem hashedSurface_withMethods_eq_iff (m : Model) (g : MethodGroups) :
    (m.withMethods g).hashedSurface = m.hashedSurface ↔
      g.event.map (fun e => (e.name, e.event.name))
          = m.eventMethods.map (fun e => (e.name, e.event.name))
        ∧ g.delegate.map (·.name) = m.delegateMethods.map (·.name) := by
  rw [hashedSurface_withMethods, hashedSurface, HashedSurface.mk.injEq]
  simp only [true_and]

/-- A surface does not list trigger and update methods. -/
theorem hashedSurface_withHandlers (m : Model) (triggers : List EventMethod)
    (updates : List UpdateMethod) :
    (m.withMethods (m.groups.withHandlers triggers updates)).hashedSurface = m.hashedSurface :=
  rfl

end Model

/-! ## Drafts with other trigger and update methods -/

namespace Draft

/-- The draft with other trigger and update methods. -/
def withHandlers (d : Draft) (triggers : List EventMethod) (updates : List UpdateMethod) : Draft :=
  d.withMethods d.delegateMethods d.eventMethods triggers updates d.rules

/-- Handlers that declare the same make the same model, but for the handlers themselves. -/
theorem build_withHandlers {d : Draft} {m : Model} (hbuild : d.build = .ok m)
    {triggers : List EventMethod} {updates : List UpdateMethod}
    (hroles : (d.withHandlers triggers updates).groups.SameRoles d.groups) :
    (d.withHandlers triggers updates).build
      = .ok (m.withMethods (m.groups.withHandlers triggers updates)) := by
  obtain ⟨qualified, anchor, hchecked, rfl⟩ := build_eq_ok_iff.1 hbuild
  refine build_eq_ok_iff.2 ⟨qualified, anchor, hchecked, ?_⟩
  exact (modelOf_withMethods d _ _ _ _ _ hroles qualified anchor).symm

end Draft

/-! ## What the bytes tell -/

namespace Surface

theorem ofModel_withHandlers (m : Model) (triggers : List EventMethod)
    (updates : List UpdateMethod) :
    ofModel (m.withMethods (m.groups.withHandlers triggers updates)) = ofModel m :=
  ofModel_congr (m.hashedSurface_withHandlers triggers updates)

/-- **Of the methods the bytes tell the events and the delegates.** A built model and the same model
with other methods, both with lengths that fit, have different bytes exactly if the names of the
event methods and the types of their events are not the same in their order, or the names of the
delegate methods are not. Other trigger and update methods never make other bytes; as long as they
declare the same, they make a draft whose model is the same in all else and has the same
fingerprint. -/
theorem ofModel_withMethods_ne_iff {d : Draft} {m : Model} (hbuild : d.build = .ok m) :
    (∀ g : MethodGroups, Fits m → Fits (m.withMethods g) →
        (ofModel (m.withMethods g) ≠ ofModel m ↔
          g.event.map (fun e => (e.name, e.event.name))
              ≠ m.eventMethods.map (fun e => (e.name, e.event.name))
            ∨ g.delegate.map (·.name) ≠ m.delegateMethods.map (·.name)))
      ∧ ∀ (triggers : List EventMethod) (updates : List UpdateMethod),
          ofModel (m.withMethods (m.groups.withHandlers triggers updates)) = ofModel m
            ∧ (m.withMethods (m.groups.withHandlers triggers updates)).fingerprint = m.fingerprint
            ∧ ((d.withHandlers triggers updates).groups.SameRoles d.groups →
              (d.withHandlers triggers updates).build
                = .ok (m.withMethods (m.groups.withHandlers triggers updates))) := by
  refine ⟨fun g hm hg => ?_, fun triggers updates => ?_⟩
  · rw [← not_and_or, ← m.hashedSurface_withMethods_eq_iff g]
    exact not_congr ⟨hashedSurface_eq_of_ofModel_eq hg hm, ofModel_congr⟩
  · have hbytes := ofModel_withHandlers m triggers updates
    refine ⟨hbytes, ?_, Draft.build_withHandlers hbuild⟩
    rw [Model.fingerprint, Model.fingerprint, hbytes]

/-- A spec with one trigger method for an event and one update method. -/
def handlingSpec (trigger event update : String) : Draft :=
  { qualifiedName := some "com.example.CardSpec"
    delegateMethods := some [{ hook := .onCreateLayout, name := "render", params := [] }]
    triggerMethods := [.handling { name := ⟨event⟩ } trigger []]
    updateMethods := [
      { name := update, params := [.stateValue { name := "count", typeName := ⟨"int"⟩ }] }]
    anchor := some { origin := "CardSpec.java" } }

/-- The model of `handlingSpec`. -/
def handlingModel (trigger event update : String) : Model :=
  (handlingSpec trigger event update).modelOf "com.example.CardSpec" { origin := "CardSpec.java" }

theorem build_handlingSpec (trigger event update : String) :
    (handlingSpec trigger event update).build = .ok (handlingModel trigger event update) :=
  rfl

/-- Another name of the delegate method is told, other triggers and updates are not. -/
theorem ofModel_withMethods_handlingModel :
    ofModel ((handlingModel "onTap" "TapEvent" "raise").withMethods
          { delegate := [{ hook := .onCreateLayout, name := "draw", params := [] }] })
        ≠ ofModel (handlingModel "onTap" "TapEvent" "raise")
      ∧ ∃ m, (handlingSpec "onHold" "HoldEvent" "lower").build = .ok m
        ∧ m.fingerprint = (handlingModel "onTap" "TapEvent" "raise").fingerprint := by
  have hbuild := build_handlingSpec "onTap" "TapEvent" "raise"
  have hfits : Fits (handlingModel "onTap" "TapEvent" "raise") := by
    constructor <;> decide +kernel
  have hfits' : Fits ((handlingModel "onTap" "TapEvent" "raise").withMethods
      { delegate := [{ hook := .onCreateLayout, name := "draw", params := [] }] }) := by
    constructor <;> decide +kernel
  refine ⟨((ofModel_withMethods_ne_iff hbuild).1 _ hfits hfits').2 (by decide +kernel), ?_⟩
  obtain ⟨-, hfingerprint, hhold⟩ := (ofModel_withMethods_ne_iff hbuild).2
    (handlingSpec "onHold" "HoldEvent" "lower").triggerMethods
    (handlingSpec "onHold" "HoldEvent" "lower").updateMethods
  exact ⟨_, hhold ⟨rfl, rfl⟩, hfingerprint⟩

/-- Two specs that differ in the trigger they handle, its event and the update method, and in
nothing else, have one run of bytes. -/
theorem ofModel_eq_otherHandlers :
    let tap := handlingModel "onTap" "TapEvent" "raise"
    let hold := handlingModel "onHold" "HoldEvent" "lower"
    (handlingSpec "onTap" "TapEvent" "raise").build = .ok tap
      ∧ (handlingSpec "onHold" "HoldEvent" "lower").build = .ok hold
      ∧ hold = { tap with
          triggerMethods := hold.triggerMethods, updateMethods := hold.updateMethods }
      ∧ tap.triggerMethods.map (fun t => (t.name, t.event.name))
        ≠ hold.triggerMethods.map (fun t => (t.name, t.event.name))
      ∧ tap.updateMethods.map (·.name) ≠ hold.updateMethods.map (·.name)
      ∧ ofModel tap = ofModel hold := by
  refine ⟨rfl, rfl, rfl, by decide +kernel, by decide +kernel, ?_⟩
  exact ofModel_congr rfl

end Surface
end ComponentSpec
