import ComponentSpec.Proofs.Build

set_option autoImplicit false

/-! # The settings of a draft

A draft remembers of each kind the setting that was made last. Such a setting stands
(`Setting.Stands`); settings of one kind replace each other, those of two kinds do not see each
other, so lists in which the same settings stand make one draft (`Draft.ofSettings_congr`). Each
setting has a place of its own in the draft, and what stands is what is found there
(`Draft.holds_ofSettings_iff`).

`Draft.build_decided_by_last_settings`: a build looks at nothing but the settings that stand, and
its checks at no more than the name, the sources of props and the anchor among them. -/

namespace ComponentSpec

namespace Setting

/-! ## Settings of one kind -/

/-- Both settings set the same thing. -/
def SameKind (s t : Setting) : Prop :=
  s.ctorIdx = t.ctorIdx

instance : DecidableRel SameKind :=
  fun s t => inferInstanceAs (Decidable (s.ctorIdx = t.ctorIdx))

/-- The setting is among the settings, and no other of its kind comes after it. -/
def Stands (s : Setting) (settings : List Setting) : Prop :=
  ∃ before after, settings = before ++ s :: after ∧ ∀ t ∈ after, ¬ s.SameKind t

theorem stands_cons_iff {s t : Setting} {settings : List Setting} :
    s.Stands (t :: settings) ↔ (s = t ∧ ∀ u ∈ settings, ¬ s.SameKind u) ∨ s.Stands settings := by
  constructor
  · rintro ⟨before, after, heq, hlast⟩
    cases before with
    | nil =>
        obtain ⟨rfl, rfl⟩ := List.cons.inj heq
        exact Or.inl ⟨rfl, hlast⟩
    | cons u before =>
        obtain ⟨rfl, rfl⟩ := List.cons.inj heq
        exact Or.inr ⟨before, after, rfl, hlast⟩
  · rintro (⟨rfl, hlast⟩ | ⟨before, after, rfl, hlast⟩)
    · exact ⟨[], settings, rfl, hlast⟩
    · exact ⟨t :: before, after, rfl, hlast⟩

theorem Stands.mem {s : Setting} {settings : List Setting} (h : s.Stands settings) :
    s ∈ settings := by
  obtain ⟨before, after, rfl, -⟩ := h
  exact List.mem_append_right before (List.mem_cons_self ..)

/-- Of each kind that was set, one setting stands. -/
theorem exists_stands {s : Setting} {settings : List Setting} (h : s ∈ settings) :
    ∃ t, s.SameKind t ∧ t.Stands settings := by
  induction settings generalizing s with
  | nil => exact absurd h (by simp)
  | cons u settings ih =>
      by_cases hlater : ∃ t ∈ settings, s.SameKind t
      · obtain ⟨t, ht, hst⟩ := hlater
        obtain ⟨r, htr, hr⟩ := ih ht
        exact ⟨r, hst.trans htr, stands_cons_iff.2 (Or.inr hr)⟩
      · rcases List.mem_cons.1 h with rfl | hs
        · refine ⟨s, rfl, stands_cons_iff.2 (Or.inl ⟨rfl, ?_⟩)⟩
          intro t ht hst
          exact hlater ⟨t, ht, hst⟩
        · exact absurd ⟨s, hs, rfl⟩ hlater

/-- Of each kind one setting stands at most. -/
theorem Stands.eq_of_sameKind {s t : Setting} {settings : List Setting} (hs : s.Stands settings)
    (ht : t.Stands settings) (h : s.SameKind t) : s = t := by
  induction settings with
  | nil => exact absurd hs.mem (by simp)
  | cons u settings ih =>
      rw [stands_cons_iff] at hs ht
      rcases hs with ⟨rfl, hlast⟩ | hs
      · rcases ht with ⟨rfl, -⟩ | ht
        · rfl
        · exact absurd h (hlast t ht.mem)
      · rcases ht with ⟨rfl, hlast⟩ | ht
        · exact absurd h.symm (hlast s hs.mem)
        · exact ih hs ht

/-! ## The settings that stand -/

/-- The settings without those that a later one replaces. -/
def latest : List Setting → List Setting
  | [] => []
  | s :: settings =>
    if ∃ t ∈ settings, s.SameKind t then latest settings else s :: latest settings

theorem mem_latest_iff {s : Setting} {settings : List Setting} :
    s ∈ latest settings ↔ s.Stands settings := by
  induction settings with
  | nil =>
      refine ⟨fun h => absurd h (by simp [latest]), fun h => ?_⟩
      exact absurd h.mem (by simp)
  | cons t settings ih =>
      rw [stands_cons_iff, ← ih, latest]
      by_cases hlater : ∃ u ∈ settings, t.SameKind u
      · rw [if_pos hlater]
        refine ⟨Or.inr, ?_⟩
        rintro (⟨rfl, hlast⟩ | h)
        · obtain ⟨u, hu, hsu⟩ := hlater
          exact absurd hsu (hlast u hu)
        · exact h
      · rw [if_neg hlater, List.mem_cons]
        refine or_congr_left ⟨?_, And.left⟩
        rintro rfl
        exact ⟨rfl, fun u hu hsu => hlater ⟨u, hu, hsu⟩⟩

theorem latest_subset (settings : List Setting) : latest settings ⊆ settings :=
  fun _ h => (mem_latest_iff.1 h).mem

theorem nodup_latest (settings : List Setting) : (latest settings).Nodup := by
  induction settings with
  | nil => exact List.nodup_nil
  | cons s settings ih =>
      rw [latest]
      split
      · exact ih
      · rename_i hlater
        rw [List.nodup_cons]
        exact ⟨fun hs => hlater ⟨s, latest_subset settings hs, rfl⟩, ih⟩

end Setting

namespace Draft

/-! ## Settings one after the other -/

/-- A setting replaces one of its kind. -/
theorem set_set_of_sameKind {s t : Setting} (h : s.SameKind t) (d : Draft) :
    (d.set s).set t = d.set t := by
  -- Only pairs of one constructor are of one kind.
  cases s <;> cases t <;> first | rfl | cases h

/-- Settings of two kinds do not see each other. -/
theorem set_comm_of_not_sameKind {s t : Setting} (h : ¬ s.SameKind t) (d : Draft) :
    (d.set s).set t = (d.set t).set s := by
  -- Two constructors write two fields, and each field keeps what was written to it.
  cases s <;> cases t <;> first | exact absurd rfl h | simp only [set]

/-- A setting that is replaced later need not be made. -/
theorem foldl_set_of_replaced {s : Setting} {settings : List Setting}
    (h : ∃ t ∈ settings, s.SameKind t) (d : Draft) :
    settings.foldl set (d.set s) = settings.foldl set d := by
  induction settings generalizing d with
  | nil => exact absurd h (by simp)
  | cons u settings ih =>
      rw [List.foldl_cons, List.foldl_cons]
      by_cases hu : s.SameKind u
      · rw [set_set_of_sameKind hu]
      · obtain ⟨t, ht, hst⟩ := h
        rcases List.mem_cons.1 ht with rfl | ht
        · exact absurd hst hu
        · rw [set_comm_of_not_sameKind hu, ih ⟨t, ht, hst⟩]

theorem foldl_set_latest (settings : List Setting) (d : Draft) :
    (Setting.latest settings).foldl set d = settings.foldl set d := by
  induction settings generalizing d with
  | nil => rfl
  | cons s settings ih =>
      rw [Setting.latest]
      by_cases h : ∃ t ∈ settings, s.SameKind t
      · rw [if_pos h, ih, List.foldl_cons, foldl_set_of_replaced h]
      · rw [if_neg h, List.foldl_cons, List.foldl_cons, ih]

/-- Lists in which the same settings stand make the same draft. -/
theorem ofSettings_congr {settings settings' : List Setting}
    (h : ∀ s : Setting, s.Stands settings ↔ s.Stands settings') :
    ofSettings settings = ofSettings settings' := by
  have hperm : (Setting.latest settings).Perm (Setting.latest settings') := by
    rw [List.perm_ext_iff_of_nodup (Setting.nodup_latest _) (Setting.nodup_latest _)]
    intro s
    rw [Setting.mem_latest_iff, Setting.mem_latest_iff]
    exact h s
  -- Of one kind there is only one setting left, so the order among those left is free.
  have hcomm : ∀ s ∈ Setting.latest settings, ∀ t ∈ Setting.latest settings, ∀ d : Draft,
      (d.set s).set t = (d.set t).set s := by
    intro s hs t ht d
    by_cases hst : s.SameKind t
    · rw [(Setting.mem_latest_iff.1 hs).eq_of_sameKind (Setting.mem_latest_iff.1 ht) hst]
    · exact set_comm_of_not_sameKind hst d
  rw [ofSettings, ofSettings, ← foldl_set_latest settings, ← foldl_set_latest settings']
  exact hperm.foldl_eq' hcomm {}

/-! ## What a draft holds -/

/-- What the setting says is found in its place. -/
def Holds (d : Draft) : Setting → Prop
  | .qualifiedName name => d.qualifiedName = some name
  | .componentSimpleName name => d.componentSimpleName = some name
  | .componentClass base => d.componentClass = some base
  | .delegateMethods ms => d.delegateMethods = some ms
  | .eventMethods ms => d.eventMethods = ms
  | .triggerMethods ms => d.triggerMethods = ms
  | .updateMethods ms => d.updateMethods = ms
  | .props ps => d.props = some ps
  | .injectProps ps => d.injectProps = some ps
  | .cache c => d.cache = c
  | .typeVariables vs => d.typeVariables = vs
  | .propDefaults ds => d.propDefaults = ds
  | .eventDeclarations ds => d.eventDeclarations = ds
  | .builderMethods ms => d.builderMethods = ms
  | .classAnnotations ts => d.classAnnotations = ts
  | .tags ts => d.tags = ts
  | .classDoc doc => d.classDoc = doc
  | .propDocs docs => d.propDocs = docs
  | .isPublic b => d.isPublic = b
  | .injectionHelper h => d.injectionHelper = some h
  | .elementKind k => d.elementKind = k
  | .anchor a => d.anchor = some a
  | .rules rs => d.rules = rs

theorem holds_set (d : Draft) (s : Setting) : (d.set s).Holds s := by
  cases s <;> rfl

/-- A setting leaves the places of other kinds alone. -/
theorem holds_set_iff_of_not_sameKind {s t : Setting} (h : ¬ s.SameKind t) (d : Draft) :
    (d.set t).Holds s ↔ d.Holds s := by
  cases s <;> cases t <;> first | exact absurd rfl h | exact Iff.rfl

/-- Of one kind a draft holds one setting at most. -/
theorem Holds.eq_of_sameKind {d : Draft} {s t : Setting} (hs : d.Holds s) (ht : d.Holds t)
    (h : s.SameKind t) : s = t := by
  cases s <;> cases t <;> cases h <;>
    first
    | exact congrArg _ (hs.symm.trans ht)
    | exact congrArg _ (Option.some.inj (hs.symm.trans ht))

theorem holds_foldl_set_iff {s : Setting} {settings : List Setting}
    (h : ∀ t ∈ settings, ¬ s.SameKind t) (d : Draft) :
    (settings.foldl set d).Holds s ↔ d.Holds s := by
  induction settings generalizing d with
  | nil => exact Iff.rfl
  | cons t settings ih =>
      rw [List.foldl_cons, ih fun u hu => h u (List.mem_cons_of_mem t hu)]
      exact holds_set_iff_of_not_sameKind (h t List.mem_cons_self) d

theorem holds_ofSettings_of_stands {s : Setting} {settings : List Setting}
    (h : s.Stands settings) : (ofSettings settings).Holds s := by
  obtain ⟨before, after, rfl, hlast⟩ := h
  rw [ofSettings, List.foldl_append, List.foldl_cons, holds_foldl_set_iff hlast]
  exact holds_set _ s

/-- **A draft holds the settings that stand**, and what an empty draft holds of the kinds that were
never set. -/
theorem holds_ofSettings_iff {s : Setting} {settings : List Setting} :
    (ofSettings settings).Holds s ↔
      s.Stands settings ∨ (∀ t ∈ settings, ¬ s.SameKind t) ∧ ({} : Draft).Holds s := by
  by_cases hset : ∃ t ∈ settings, s.SameKind t
  · obtain ⟨t, ht, hst⟩ := hset
    obtain ⟨u, htu, hu⟩ := Setting.exists_stands ht
    constructor
    · intro hs
      rw [hs.eq_of_sameKind (holds_ofSettings_of_stands hu) (hst.trans htu)]
      exact .inl hu
    · rintro (hs | ⟨hnone, -⟩)
      · exact holds_ofSettings_of_stands hs
      · exact absurd hst (hnone t ht)
  · push Not at hset
    rw [ofSettings, holds_foldl_set_iff hset]
    refine ⟨fun hs => .inr ⟨hset, hs⟩, ?_⟩
    rintro (hs | ⟨-, hs⟩)
    · exact absurd rfl (hset s hs.mem)
    · exact hs

/-! ## Places that start empty -/

/-- The settings that `make` makes are all of a kind, and an empty draft holds none of them. -/
structure StartsEmpty {β : Type} (make : β → Setting) : Prop where
  not_holds_empty : ∀ b, ¬ ({} : Draft).Holds (make b)
  exists_eq_make : ∀ b s, (make b).SameKind s → ∃ b', s = make b'

/-- What the checks look at starts empty. -/
theorem startsEmpty_checked :
    StartsEmpty Setting.qualifiedName ∧ StartsEmpty Setting.delegateMethods
      ∧ StartsEmpty Setting.props ∧ StartsEmpty Setting.anchor := by
  refine ⟨⟨fun _ => nofun, ?_⟩, ⟨fun _ => nofun, ?_⟩, ⟨fun _ => nofun, ?_⟩,
    ⟨fun _ => nofun, ?_⟩⟩
  all_goals
    intro b s h
    cases s <;> first | exact ⟨_, rfl⟩ | cases h

section

variable {β : Type} {make : β → Setting} {settings : List Setting}

theorem StartsEmpty.holds_ofSettings_iff (h : StartsEmpty make) {b : β} :
    (ofSettings settings).Holds (make b) ↔ (make b).Stands settings := by
  rw [Draft.holds_ofSettings_iff, or_iff_left_iff_imp]
  rintro ⟨-, hb⟩
  exact absurd hb (h.not_holds_empty b)

theorem StartsEmpty.exists_holds_ofSettings_iff (h : StartsEmpty make) :
    (∃ b, (ofSettings settings).Holds (make b)) ↔ ∃ b, make b ∈ settings := by
  simp only [h.holds_ofSettings_iff]
  constructor
  · rintro ⟨b, hb⟩
    exact ⟨b, hb.mem⟩
  · rintro ⟨b, hb⟩
    obtain ⟨s, hsame, hs⟩ := Setting.exists_stands hb
    obtain ⟨b', rfl⟩ := h.exists_eq_make b s hsame
    exact ⟨b', hs⟩

end

end Draft

/-! ## What the checks look at -/

namespace Setting

/-- The last name is not blank. -/
def Named (settings : List Setting) : Prop :=
  ∃ name, (Setting.qualifiedName name).Stands settings ∧ Text.isBlank name = false

/-- Delegate methods were set, be it none at all. -/
def GivesDelegates (settings : List Setting) : Prop :=
  ∃ methods, Setting.delegateMethods methods ∈ settings

/-- Props were set, be it none at all. -/
def GivesProps (settings : List Setting) : Prop :=
  ∃ props, Setting.props props ∈ settings

def GivesAnchor (settings : List Setting) : Prop :=
  ∃ anchor, Setting.anchor anchor ∈ settings

end Setting

namespace Draft

/-- When a flaw is the first one, given what is there for the checks. -/
def FirstFlaw (named delegates props anchored : Prop) : Flaw → Prop
  | .noName => ¬ named
  | .noProps => named ∧ ¬ delegates ∧ ¬ props
  | .twoSourcesOfProps => named ∧ delegates ∧ props
  | .noAnchor => named ∧ Xor delegates props ∧ ¬ anchored

theorem checked_eq_error_iff {d : Draft} {f : Flaw} :
    d.checked = .error f ↔
      FirstFlaw (∃ name, d.qualifiedName = some name ∧ Text.isBlank name = false)
        (d.delegateMethods.isSome = true) (d.props.isSome = true) (d.anchor.isSome = true) f := by
  simp only [← filter_qualifiedName_eq_some_iff]
  rw [checked]
  cases d.qualifiedName.filter fun name => !Text.isBlank name with
  | none => cases f <;> simp [FirstFlaw]
  | some name =>
      cases d.delegateMethods <;> cases d.props <;> cases d.anchor <;> cases f <;>
        simp [FirstFlaw, Xor]

/-- A build fails with the configuration error of a flaw. -/
theorem mapError_build_eq_error_iff {d : Draft} {e : Error} :
    d.build.mapError Flaw.toError = .error e ↔
      ∃ f : Flaw, e = .configuration f.message ∧ d.build = .error f := by
  cases d.build with
  | ok m =>
      constructor
      · rintro ⟨⟩
      · rintro ⟨f, -, ⟨⟩⟩
  | error f =>
      constructor
      · rintro ⟨⟩
        exact ⟨f, rfl, rfl⟩
      · rintro ⟨g, rfl, ⟨⟩⟩
        rfl

section

variable {settings : List Setting}

theorem named_ofSettings_iff :
    (∃ name, (ofSettings settings).qualifiedName = some name ∧ Text.isBlank name = false) ↔
      Setting.Named settings := by
  have hname : ∀ name, (ofSettings settings).qualifiedName = some name ↔
      (Setting.qualifiedName name).Stands settings :=
    fun _ => startsEmpty_checked.1.holds_ofSettings_iff
  simp only [hname, Setting.Named]

theorem isSome_delegateMethods_ofSettings_iff :
    (ofSettings settings).delegateMethods.isSome = true ↔ Setting.GivesDelegates settings :=
  Option.isSome_iff_exists.trans startsEmpty_checked.2.1.exists_holds_ofSettings_iff

theorem isSome_props_ofSettings_iff :
    (ofSettings settings).props.isSome = true ↔ Setting.GivesProps settings :=
  Option.isSome_iff_exists.trans startsEmpty_checked.2.2.1.exists_holds_ofSettings_iff

theorem isSome_anchor_ofSettings_iff :
    (ofSettings settings).anchor.isSome = true ↔ Setting.GivesAnchor settings :=
  Option.isSome_iff_exists.trans startsEmpty_checked.2.2.2.exists_holds_ofSettings_iff

/-- The build of settings succeeds exactly if the checks have all they look at. -/
theorem exists_build_ofSettings_iff :
    (∃ m, (ofSettings settings).build = .ok m) ↔
      Setting.Named settings
        ∧ Xor (Setting.GivesDelegates settings) (Setting.GivesProps settings)
        ∧ Setting.GivesAnchor settings := by
  rw [← named_ofSettings_iff, ← isSome_delegateMethods_ofSettings_iff,
    ← isSome_props_ofSettings_iff, ← isSome_anchor_ofSettings_iff]
  constructor
  · rintro ⟨m, hm⟩
    obtain ⟨qualified, anchor, hchecked, -⟩ := build_eq_ok_iff.1 hm
    obtain ⟨hname, hsource, hanchor⟩ := checked_eq_ok_iff.1 hchecked
    exact ⟨⟨qualified, hname⟩, hsource, Option.isSome_iff_exists.2 ⟨anchor, hanchor⟩⟩
  · rintro ⟨⟨qualified, hname⟩, hsource, hanchored⟩
    obtain ⟨anchor, hanchor⟩ := Option.isSome_iff_exists.1 hanchored
    exact ⟨_, build_eq_ok_iff.2
      ⟨qualified, anchor, checked_eq_ok_iff.2 ⟨hname, hsource, hanchor⟩, rfl⟩⟩

/-- The build of settings fails with the first flaw that the checks find. -/
theorem build_ofSettings_eq_error_iff {f : Flaw} :
    (ofSettings settings).build = .error f ↔
      FirstFlaw (Setting.Named settings) (Setting.GivesDelegates settings)
        (Setting.GivesProps settings) (Setting.GivesAnchor settings) f := by
  rw [build_eq_error_iff, checked_eq_error_iff, named_ofSettings_iff,
    isSome_delegateMethods_ofSettings_iff, isSome_props_ofSettings_iff,
    isSome_anchor_ofSettings_iff]

end

/-- **A build is decided by the last setting of each kind.** Lists of settings that end with the
same setting of each kind have one outcome, so settings of two kinds change places freely and a
setting replaces those of its kind before it. A build succeeds exactly if the last name is not
blank, the props have one source and there is an anchor; otherwise it fails with the error of the
first flaw in this order. No other setting has a say in it. The draft that is built holds each
setting that stands in the place that it is for, and of a kind that was never set what an empty
draft holds. -/
theorem build_decided_by_last_settings :
    (∀ settings settings' : List Setting,
        (∀ s : Setting, s.Stands settings ↔ s.Stands settings') →
          (ofSettings settings).build = (ofSettings settings').build)
      ∧ (∀ (before after : List Setting) (s t : Setting), ¬ s.SameKind t →
          (ofSettings (before ++ s :: t :: after)).build
            = (ofSettings (before ++ t :: s :: after)).build)
      ∧ (∀ (before between after : List Setting) (s t : Setting), s.SameKind t →
          (ofSettings (before ++ s :: (between ++ t :: after))).build
            = (ofSettings (before ++ (between ++ t :: after))).build)
      ∧ (∀ settings : List Setting, (∃ m, (ofSettings settings).build = .ok m) ↔
          Setting.Named settings
            ∧ Xor (Setting.GivesDelegates settings) (Setting.GivesProps settings)
            ∧ Setting.GivesAnchor settings)
      ∧ (∀ (settings : List Setting) (e : Error),
          (ofSettings settings).build.mapError Flaw.toError = .error e ↔
            ∃ f : Flaw, e = .configuration f.message
              ∧ FirstFlaw (Setting.Named settings) (Setting.GivesDelegates settings)
                (Setting.GivesProps settings) (Setting.GivesAnchor settings) f)
      ∧ ∀ (settings : List Setting) (s : Setting), (ofSettings settings).Holds s ↔
          s.Stands settings ∨ (∀ t ∈ settings, ¬ s.SameKind t) ∧ ({} : Draft).Holds s := by
  refine ⟨?_, ?_, ?_, fun _ => exists_build_ofSettings_iff, ?_, fun _ _ => holds_ofSettings_iff⟩
  · intro settings settings' h
    rw [ofSettings_congr h]
  · intro before after s t h
    simp only [ofSettings, List.foldl_append, List.foldl_cons]
    rw [set_comm_of_not_sameKind h]
  · intro before between after s t h
    have hlater : ∃ u ∈ between ++ t :: after, s.SameKind u :=
      ⟨t, List.mem_append_right between (List.mem_cons_self ..), h⟩
    rw [ofSettings, ofSettings, List.foldl_append, List.foldl_append, List.foldl_cons,
      foldl_set_of_replaced hlater]
  · intro settings e
    simp only [mapError_build_eq_error_iff, build_ofSettings_eq_error_iff]

/-- The settings of a spec whose name is left blank at first. -/
def renamedSpec : List Setting :=
  [.qualifiedName " ", .anchor { origin := "CardSpec.java" },
    .qualifiedName "com.example.CardSpec", .delegateMethods []]

/-- The same spec in another order, with one name. -/
def namedSpec : List Setting :=
  [.delegateMethods [], .qualifiedName "com.example.CardSpec",
    .anchor { origin := "CardSpec.java" }]

/-- The order and the blank name make no difference. -/
theorem build_decided_by_last_settings_renamed :
    (∀ s : Setting, s.Stands renamedSpec ↔ s.Stands namedSpec)
      ∧ (ofSettings renamedSpec).build = (ofSettings namedSpec).build
      ∧ ¬ (Setting.delegateMethods []).SameKind (.props [])
      ∧ (ofSettings [.delegateMethods [], .props []]).build
        = (ofSettings [.props [], .delegateMethods []]).build
      ∧ (Setting.qualifiedName " ").SameKind (.qualifiedName "com.example.CardSpec")
      ∧ (ofSettings renamedSpec).build = (ofSettings renamedSpec.tail).build
      ∧ (ofSettings renamedSpec).Holds (.qualifiedName "com.example.CardSpec")
      ∧ ¬ (ofSettings renamedSpec).Holds (.qualifiedName " ") := by
  have hstands : ∀ s : Setting, s.Stands renamedSpec ↔ s.Stands namedSpec := by
    intro s
    have hrenamed : Setting.latest renamedSpec = [.anchor { origin := "CardSpec.java" },
        .qualifiedName "com.example.CardSpec", .delegateMethods []] := rfl
    have hnamed : Setting.latest namedSpec = namedSpec := rfl
    rw [← Setting.mem_latest_iff, ← Setting.mem_latest_iff, hrenamed, hnamed]
    simp only [namedSpec, List.mem_cons, List.not_mem_nil, or_false]
    constructor <;> rintro (rfl | rfl | rfl) <;> simp
  have hkinds : ¬ (Setting.delegateMethods []).SameKind (.props []) := by decide
  have hnames : (Setting.qualifiedName " ").SameKind (.qualifiedName "com.example.CardSpec") := rfl
  have hlast : (Setting.qualifiedName "com.example.CardSpec").Stands renamedSpec := by
    rw [← Setting.mem_latest_iff]
    exact List.mem_cons_of_mem _ List.mem_cons_self
  have hholds : (ofSettings renamedSpec).Holds (.qualifiedName "com.example.CardSpec") :=
    (build_decided_by_last_settings.2.2.2.2.2 _ _).2 (.inl hlast)
  refine ⟨hstands, build_decided_by_last_settings.1 _ _ hstands,
    hkinds, build_decided_by_last_settings.2.1 [] [] _ _ hkinds,
    hnames, build_decided_by_last_settings.2.2.1 [] [.anchor { origin := "CardSpec.java" }]
      [.delegateMethods []] _ _ hnames, hholds, fun hblank => ?_⟩
  exact absurd (Setting.qualifiedName.inj (hblank.eq_of_sameKind hholds hnames)) (by decide)

end Draft
end ComponentSpec
