import ComponentSpec.Fingerprint
import ComponentSpec.Proofs.Build

set_option autoImplicit false

/-! # The bytes of a surface are exact

A fingerprint is taken over the bytes of a model's surface. `HashedSurface` lists what these bytes
are to tell. A code is exact for a view of its values when it tells this view, nothing else, and
also where it ends, so exact codes can stand one after the other (`Exact.append`, `Exact.counted`).
`Surface.ofModel_eq_iff_hashedSurface_eq`: two models have the same bytes exactly if their surfaces
agree, as long as lengths fit into the eight bytes that are there for them. -/

namespace ComponentSpec

/-! ## The surface -/

/-- What a fingerprint takes notice of. -/
structure HashedSurface where
  specType : TypeName
  componentType : TypeName
  props : List Key
  /-- Which of the props the caller may leave out. -/
  optionalFlags : List Bool
  injectProps : List Key
  stateValues : List Key
  /-- Which of the state values may be updated lazily. -/
  lazyFlags : List Bool
  stageInputs : List Key
  treeValues : List Key
  renderDiffs : List Key
  /-- The name of each event method and the type of its event. -/
  events : List (String × TypeName)
  /-- The names of the delegate methods. -/
  delegates : List String
  deriving DecidableEq

def Model.hashedSurface (m : Model) : HashedSurface where
  specType := m.specTypeName
  componentType := m.componentTypeName
  props := m.props.map Key.of
  optionalFlags := m.props.map (·.optional)
  injectProps := m.injectProps.map Key.of
  stateValues := m.stateValues.map Key.of
  lazyFlags := m.stateValues.map (·.canUpdateLazily)
  stageInputs := m.stageInputs.map Key.of
  treeValues := m.treeValues.map Key.of
  renderDiffs := m.renderDiffs.map Key.of
  events := m.eventMethods.map fun e => (e.name, e.event.name)
  delegates := m.delegateMethods.map (·.name)

namespace Surface

/-! ## Exact codes -/

section

variable {α β γ δ : Type}

/-- The code of a value that `fits` tells what `view` sees of the value, nothing else, and where it
ends. -/
structure Exact (code : α → List UInt8) (view : α → β) (fits : α → Prop) : Prop where
  congr : ∀ {a b}, view a = view b → code a = code b
  append_inj : ∀ {a b r s}, fits a → fits b → code a ++ r = code b ++ s → view a = view b ∧ r = s

variable {code : α → List UInt8} {view : α → β} {fits : α → Prop}

/-- The code of a part of a value. -/
theorem Exact.comap (h : Exact code view fits) (part : γ → α) :
    Exact (fun c => code (part c)) (fun c => view (part c)) fun c => fits (part c) where
  congr := h.congr
  append_inj := h.append_inj

theorem Exact.append {code' : α → List UInt8} {view' : α → δ} {fits' : α → Prop}
    (h : Exact code view fits) (h' : Exact code' view' fits') :
    Exact (fun a => code a ++ code' a) (fun a => (view a, view' a)) fun a => fits a ∧ fits' a where
  congr heq := by
    obtain ⟨hview, hview'⟩ := Prod.mk.inj heq
    rw [h.congr hview, h'.congr hview']
  append_inj ha hb heq := by
    rw [List.append_assoc, List.append_assoc] at heq
    obtain ⟨hview, hrest⟩ := h.append_inj ha.1 hb.1 heq
    obtain ⟨hview', hrs⟩ := h'.append_inj ha.2 hb.2 hrest
    exact ⟨by rw [hview, hview'], hrs⟩

theorem Exact.flatMap_congr (h : Exact code view fits) {as bs : List α}
    (heq : as.map view = bs.map view) : as.flatMap code = bs.flatMap code := by
  induction as generalizing bs with
  | nil =>
      rw [List.map_nil, eq_comm, List.map_eq_nil_iff] at heq
      rw [heq]
  | cons a as ih =>
      obtain ⟨b, bs, rfl, hab, hrest⟩ := List.map_eq_cons_iff.1 heq.symm
      rw [List.flatMap_cons, List.flatMap_cons, h.congr hab.symm, ih hrest.symm]

/-- Codes one after the other end where their number is known. -/
theorem Exact.flatMap_append_inj (h : Exact code view fits) {as bs : List α} {r s : List UInt8}
    (hlen : as.length = bs.length) (ha : ∀ a ∈ as, fits a) (hb : ∀ b ∈ bs, fits b)
    (heq : as.flatMap code ++ r = bs.flatMap code ++ s) : as.map view = bs.map view ∧ r = s := by
  induction as generalizing bs with
  | nil =>
      cases bs with
      | nil => exact ⟨rfl, heq⟩
      | cons b bs => exact absurd hlen (by simp)
  | cons a as ih =>
      cases bs with
      | nil => exact absurd hlen (by simp)
      | cons b bs =>
          rw [List.flatMap_cons, List.flatMap_cons, List.append_assoc, List.append_assoc] at heq
          rw [List.forall_mem_cons] at ha hb
          obtain ⟨hview, hrest⟩ := h.append_inj ha.1 hb.1 heq
          obtain ⟨hviews, hrs⟩ := ih (Nat.succ.inj hlen) ha.2 hb.2 hrest
          exact ⟨by rw [List.map_cons, List.map_cons, hview, hviews], hrs⟩

end

/-! ## Numbers and texts -/

theorem littleEndian_inj {width n k : Nat} (hn : n < Nat.pow 256 width)
    (hk : k < Nat.pow 256 width) (h : littleEndian width n = littleEndian width k) : n = k := by
  induction width generalizing n k with
  | zero =>
      have hn0 : n < 1 := hn
      have hk0 : k < 1 := hk
      omega
  | succ width ih =>
      have hn' : n < Nat.pow 256 width * 256 := hn
      have hk' : k < Nat.pow 256 width * 256 := hk
      obtain ⟨hlow, hhigh⟩ := List.cons.inj h
      have hmod : n % 256 = k % 256 := by simpa using congrArg UInt8.toNat hlow
      have hdiv : n / 256 = k / 256 := ih (by omega) (by omega) hhigh
      omega

theorem exact_number : Exact number id (· < UInt64.size) where
  congr heq := congrArg number heq
  append_inj ha hb heq := by
    obtain ⟨hnumber, hrs⟩ := List.append_inj heq (by simp [number])
    exact ⟨littleEndian_inj (by exact ha) (by exact hb) hnumber, hrs⟩

/-- The number of bytes of a text fits into eight bytes. -/
def TextFits (s : String) : Prop :=
  s.utf8ByteSize < UInt64.size
  deriving Decidable

theorem toByteArray_flatMap_utf8EncodeChar (s : String) :
    (s.toList.flatMap String.utf8EncodeChar).toByteArray = s.toByteArray := by
  rw [← String.utf8Encode_toList, List.utf8Encode]

theorem length_flatMap_utf8EncodeChar (s : String) :
    (s.toList.flatMap String.utf8EncodeChar).length = s.utf8ByteSize := by
  rw [← List.size_toByteArray, toByteArray_flatMap_utf8EncodeChar, String.size_toByteArray]

theorem exact_text : Exact text id TextFits where
  congr heq := congrArg text heq
  append_inj {s t r r'} hs ht heq := by
    simp only [text, List.append_assoc, length_flatMap_utf8EncodeChar] at heq
    obtain ⟨hsize, heq⟩ := exact_number.append_inj hs ht heq
    -- The numbers of bytes agree, so both texts end at the same place.
    obtain ⟨hbytes, hrest⟩ := List.append_inj heq (by
      rw [length_flatMap_utf8EncodeChar, length_flatMap_utf8EncodeChar]
      exact hsize)
    have hst : s.toByteArray = t.toByteArray := by
      rw [← toByteArray_flatMap_utf8EncodeChar, hbytes, toByteArray_flatMap_utf8EncodeChar]
    exact ⟨String.toByteArray_inj.1 hst, hrest⟩

theorem exact_typeName : Exact (fun t : TypeName => text t.text) id (fun t => TextFits t.text) where
  congr heq := congrArg (fun t : TypeName => text t.text) heq
  append_inj ha hb heq := by
    obtain ⟨htext, hrs⟩ := exact_text.append_inj ha hb heq
    exact ⟨congrArg TypeName.mk htext, hrs⟩

/-! ## Declarations and lists -/

section

variable {α β : Type}

/-- Name and type fit. -/
def DeclaredFits [Declared α] (a : α) : Prop :=
  TextFits (Declared.name a) ∧ TextFits (Declared.typeName a).text

instance [Declared α] : DecidablePred (DeclaredFits (α := α)) :=
  fun _ => inferInstanceAs (Decidable (_ ∧ _))

theorem exact_declared [Declared α] : Exact (declared (α := α)) Key.of DeclaredFits where
  congr {a b} heq := by
    obtain ⟨hname, htype⟩ := (Key.mk.injEq ..).mp heq
    rw [declared, declared, hname, htype]
  append_inj {a b r s} ha hb heq := by
    rw [declared, declared, List.append_assoc, List.append_assoc] at heq
    obtain ⟨hname, heq⟩ := exact_text.append_inj ha.1 hb.1 heq
    obtain ⟨htype, hrs⟩ := exact_typeName.append_inj ha.2 hb.2 heq
    exact ⟨(Key.mk.injEq ..).mpr ⟨hname, htype⟩, hrs⟩

/-- The number of items fits into eight bytes, and each item fits. -/
def ListFits (fits : α → Prop) (as : List α) : Prop :=
  as.length < UInt64.size ∧ ∀ a ∈ as, fits a

instance (fits : α → Prop) [DecidablePred fits] (as : List α) : Decidable (ListFits fits as) :=
  inferInstanceAs (Decidable (_ ∧ _))

theorem Exact.counted {code : α → List UInt8} {view : α → β} {fits : α → Prop}
    (h : Exact code view fits) :
    Exact (fun as => number as.length ++ as.flatMap code) (List.map view) (ListFits fits) where
  congr {as bs} heq := by
    have hlen : as.length = bs.length := by simpa using congrArg List.length heq
    rw [hlen, h.flatMap_congr heq]
  append_inj ha hb heq := by
    rw [List.append_assoc, List.append_assoc] at heq
    obtain ⟨hlen, heq⟩ := exact_number.append_inj ha.1 hb.1 heq
    exact h.flatMap_append_inj hlen ha.2 hb.2 heq

theorem Exact.tagged {code : α → List UInt8} {view : α → β} {fits : α → Prop}
    (h : Exact code view fits) (tag : UInt8) : Exact (fun a => tag :: code a) view fits where
  congr heq := congrArg (tag :: ·) (h.congr heq)
  append_inj ha hb heq := h.append_inj ha hb (List.cons.inj heq).2

theorem exact_listing [Declared α] (tag : UInt8) :
    Exact (listing (α := α) tag) (List.map Key.of) (ListFits DeclaredFits) :=
  exact_declared.counted.tagged tag

theorem flag_inj : ∀ {a b : Bool}, flag a = flag b → a = b := by
  decide

/-- The flags of a list have no length of their own and end with the list before them. -/
theorem flags_append_inj {as bs : List α} {flagOf : α → Bool} {r s : List UInt8}
    (hlen : as.length = bs.length)
    (heq : (as.map fun a => flag (flagOf a)) ++ r = (bs.map fun a => flag (flagOf a)) ++ s) :
    as.map flagOf = bs.map flagOf ∧ r = s := by
  obtain ⟨hflags, hrs⟩ := List.append_inj heq (by rwa [List.length_map, List.length_map])
  refine ⟨?_, hrs⟩
  rw [← List.map_inj_right (f := flag) fun _ _ => flag_inj, List.map_map, List.map_map]
  exact hflags

/-- A listing with a flag for each of its items. -/
theorem exact_flagged [Declared α] (tag : UInt8) (flagOf : α → Bool) :
    Exact (fun as : List α => listing tag as ++ as.map fun a => flag (flagOf a))
      (fun as => (as.map Key.of, as.map flagOf)) (ListFits DeclaredFits) where
  congr heq := by
    obtain ⟨hkeys, hflags⟩ := Prod.mk.inj heq
    have hbytes := congrArg (List.map flag) hflags
    rw [List.map_map, List.map_map] at hbytes
    rw [(exact_listing tag).congr hkeys]
    exact congrArg _ hbytes
  append_inj ha hb heq := by
    rw [List.append_assoc, List.append_assoc] at heq
    obtain ⟨hkeys, heq⟩ := (exact_listing tag).append_inj ha hb heq
    obtain ⟨hflags, hrs⟩ := flags_append_inj (by simpa using congrArg List.length hkeys) heq
    exact ⟨by rw [hkeys, hflags], hrs⟩

end

/-! ## The whole surface -/

/-- The texts and lists of a model's surface have lengths that fit into eight bytes. -/
structure Fits (m : Model) : Prop where
  specType : TextFits m.specTypeName.text
  componentType : TextFits m.componentTypeName.text
  props : ListFits DeclaredFits m.props
  injectProps : ListFits DeclaredFits m.injectProps
  stateValues : ListFits DeclaredFits m.stateValues
  stageInputs : ListFits DeclaredFits m.stageInputs
  treeValues : ListFits DeclaredFits m.treeValues
  renderDiffs : ListFits DeclaredFits m.renderDiffs
  events : ListFits (fun e => TextFits e.name ∧ TextFits e.event.name.text) m.eventMethods
  delegates : ListFits (fun d => TextFits d.name) m.delegateMethods

theorem exact_events :
    Exact (fun es : List EventMethod =>
        7 :: (number es.length ++ es.flatMap fun e => text e.name ++ text e.event.name.text))
      (List.map fun e => (e.name, e.event.name))
      (ListFits fun e => TextFits e.name ∧ TextFits e.event.name.text) :=
  (((exact_text.comap fun e : EventMethod => e.name).append
    (exact_typeName.comap fun e : EventMethod => e.event.name)).counted).tagged 7

/-- No tag stands before the delegate methods; the event methods end by their own count. -/
theorem exact_delegates :
    Exact (fun ds : List DelegateMethod => number ds.length ++ ds.flatMap fun d => text d.name)
      (List.map (·.name)) (ListFits fun d => TextFits d.name) :=
  (exact_text.comap fun d : DelegateMethod => d.name).counted

/-- The bytes of a surface, each flag run next to the list it belongs to. -/
theorem ofModel_eq_parts (m : Model) :
    ofModel m = text m.specTypeName.text ++ (text m.componentTypeName.text
      ++ ((listing 1 m.props ++ m.props.map fun p => flag p.optional)
      ++ (listing 2 m.injectProps
      ++ ((listing 3 m.stateValues ++ m.stateValues.map fun s => flag s.canUpdateLazily)
      ++ (listing 4 m.stageInputs ++ (listing 5 m.treeValues ++ (listing 6 m.renderDiffs
      ++ ((7 :: (number m.eventMethods.length
        ++ m.eventMethods.flatMap fun e => text e.name ++ text e.event.name.text))
      ++ (number m.delegateMethods.length
        ++ m.delegateMethods.flatMap fun d => text d.name))))))))) := by
  simp only [ofModel, List.append_assoc, List.cons_append]

theorem ofModel_congr {m m' : Model} (h : m.hashedSurface = m'.hashedSurface) :
    ofModel m = ofModel m' := by
  simp only [Model.hashedSurface, HashedSurface.mk.injEq] at h
  obtain ⟨hspec, hcomponent, hprops, hoptional, hinject, hstate, hlazy, hstage, htree, hrender,
    hevents, hdelegates⟩ := h
  rw [ofModel_eq_parts, ofModel_eq_parts, hspec, hcomponent,
    (exact_flagged 1 _).congr (Prod.mk.injEq .. |>.mpr ⟨hprops, hoptional⟩),
    (exact_listing 2).congr hinject,
    (exact_flagged 3 _).congr (Prod.mk.injEq .. |>.mpr ⟨hstate, hlazy⟩),
    (exact_listing 4).congr hstage, (exact_listing 5).congr htree, (exact_listing 6).congr hrender,
    exact_events.congr hevents, exact_delegates.congr hdelegates]

/-- Part by part, each ends where the next one begins. -/
theorem hashedSurface_eq_of_ofModel_eq {m m' : Model} (hm : Fits m) (hm' : Fits m')
    (h : ofModel m = ofModel m') : m.hashedSurface = m'.hashedSurface := by
  rw [ofModel_eq_parts, ofModel_eq_parts] at h
  obtain ⟨hspec, h⟩ := exact_typeName.append_inj hm.specType hm'.specType h
  obtain ⟨hcomponent, h⟩ := exact_typeName.append_inj hm.componentType hm'.componentType h
  obtain ⟨hprops, h⟩ := (exact_flagged 1 _).append_inj hm.props hm'.props h
  obtain ⟨hinject, h⟩ := (exact_listing 2).append_inj hm.injectProps hm'.injectProps h
  obtain ⟨hstate, h⟩ := (exact_flagged 3 _).append_inj hm.stateValues hm'.stateValues h
  obtain ⟨hstage, h⟩ := (exact_listing 4).append_inj hm.stageInputs hm'.stageInputs h
  obtain ⟨htree, h⟩ := (exact_listing 5).append_inj hm.treeValues hm'.treeValues h
  obtain ⟨hrender, h⟩ := (exact_listing 6).append_inj hm.renderDiffs hm'.renderDiffs h
  obtain ⟨hevents, h⟩ := exact_events.append_inj hm.events hm'.events h
  -- Nothing stands behind the delegate methods.
  rw [← List.append_nil (number m.delegateMethods.length ++ _),
    ← List.append_nil (number m'.delegateMethods.length ++ _)] at h
  obtain ⟨hdelegates, -⟩ := exact_delegates.append_inj hm.delegates hm'.delegates h
  obtain ⟨hprops, hoptional⟩ := Prod.mk.inj hprops
  obtain ⟨hstate, hlazy⟩ := Prod.mk.inj hstate
  exact (HashedSurface.mk.injEq ..).mpr ⟨hspec, hcomponent, hprops, hoptional, hinject, hstate,
    hlazy, hstage, htree, hrender, hevents, hdelegates⟩

/-- **The bytes of a surface are exact.** Two models whose lengths fit have the same bytes exactly
if their surfaces agree. Both lanes of a fingerprint take these bytes alone, so models with one
surface have one fingerprint, whatever else they differ in. -/
theorem ofModel_eq_iff_hashedSurface_eq :
    (∀ m m' : Model, Fits m → Fits m' →
        (ofModel m = ofModel m' ↔ m.hashedSurface = m'.hashedSurface))
      ∧ (∀ m : Model, m.fingerprint
        = ⟨Lane.run Lane.highSeed (ofModel m), Lane.run Lane.lowSeed (ofModel m)⟩)
      ∧ ∀ m m' : Model, m.hashedSurface = m'.hashedSurface → m.fingerprint = m'.fingerprint := by
  refine ⟨fun m m' hm hm' => ⟨hashedSurface_eq_of_ofModel_eq hm hm', ofModel_congr⟩,
    fun m => rfl, fun m m' h => ?_⟩
  rw [Model.fingerprint, Model.fingerprint, ofModel_congr h]

/-- The model of a spec with delegate methods of these names. -/
def delegatesModel (names : List String) : Model :=
  Draft.modelOf
    { delegateMethods := some (names.map fun n =>
        { hook := .onCreateLayout, name := n, params := [] }) }
    "com.example.FeedSpec" { origin := "FeedSpec.java" }

/-- Names that run together to one text are still told apart. -/
theorem ofModel_ne_regroupedNames :
    Fits (delegatesModel ["ab", "c"]) ∧ Fits (delegatesModel ["a", "bc"])
      ∧ ofModel (delegatesModel ["ab", "c"]) ≠ ofModel (delegatesModel ["a", "bc"]) := by
  have hfits : Fits (delegatesModel ["ab", "c"]) := by
    constructor <;> decide +kernel
  have hfits' : Fits (delegatesModel ["a", "bc"]) := by
    constructor <;> decide +kernel
  refine ⟨hfits, hfits', fun h => ?_⟩
  exact absurd ((ofModel_eq_iff_hashedSurface_eq.1 _ _ hfits hfits').1 h) (by decide +kernel)

end Surface
end ComponentSpec
