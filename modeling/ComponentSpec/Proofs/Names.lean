import ComponentSpec.Proofs.Build
import Mathlib.Data.List.DropRight

set_option autoImplicit false

/-! # Parts of qualified names

A qualified name splits in one way only into a package, which is empty or ends with a dot, and a
simple name without a dot (`Name.packagePart_append`, `Name.simpleName_append`). The name of a
component is the package of its spec and a name of its own behind it (`Name.component_eq_append`),
so its own parts are told by that name alone: dropping the ending of specs touches no package. -/

namespace ComponentSpec

namespace Name

/-! ## Simple names and packages -/

/-- A name without a dot. -/
def IsSimple (n : String) : Prop :=
  '.' ∉ n.toList

/-- Nothing, or a text with a dot at its end. -/
def IsPackage (p : String) : Prop :=
  p = "" ∨ p.toList.getLast? = some '.'

instance decidableIsSimple (n : String) : Decidable (IsSimple n) :=
  inferInstanceAs (Decidable ('.' ∉ n.toList))

theorem toList_simpleName (q : String) :
    (simpleName q).toList = q.toList.rtakeWhile (· ≠ '.') := by
  rw [simpleName, String.toList_ofList, List.rtakeWhile]

theorem toList_packagePart (q : String) :
    (packagePart q).toList = q.toList.rdropWhile (· ≠ '.') := by
  rw [packagePart, String.toList_ofList, List.rdropWhile]

theorem isSimple_simpleName (q : String) : IsSimple (simpleName q) := by
  intro hdot
  rw [toList_simpleName] at hdot
  exact absurd (List.mem_rtakeWhile_imp hdot) (by decide)

theorem isPackage_iff {p : String} :
    IsPackage p ↔ ∀ h : p.toList ≠ [], p.toList.getLast h = '.' := by
  rw [IsPackage, ← String.toList_eq_nil_iff]
  by_cases h : p.toList = []
  · simp [h]
  · simp [h, List.getLast?_eq_some_getLast h]

theorem isPackage_packagePart (q : String) : IsPackage (packagePart q) := by
  rw [isPackage_iff]
  simp only [toList_packagePart]
  intro h
  simpa using List.rdropWhile_last_not _ _ h

/-! ## Splitting -/

theorem simpleName_eq_self_iff {n : String} : simpleName n = n ↔ IsSimple n := by
  rw [← String.toList_inj, toList_simpleName, List.rtakeWhile_eq_self_iff, IsSimple]
  constructor
  · intro hall hdot
    exact absurd (hall '.' hdot) (by decide)
  · intro hdot c hc
    exact decide_eq_true fun heq => hdot (heq ▸ hc)

theorem packagePart_eq_empty_iff {n : String} : packagePart n = "" ↔ IsSimple n := by
  rw [← simpleName_eq_self_iff]
  have hsplit := packagePart_append_simpleName n
  constructor
  · intro h
    rwa [h, String.empty_append] at hsplit
  · intro h
    rw [h] at hsplit
    simpa using congrArg String.length hsplit

theorem simpleName_eq_empty_iff {n : String} : simpleName n = "" ↔ IsPackage n := by
  rw [isPackage_iff, ← String.toList_eq_nil_iff, toList_simpleName, List.rtakeWhile_eq_nil_iff]
  simp

/-- **A package is split off from any name behind it.** -/
theorem simpleName_append {p : String} (hp : IsPackage p) (n : String) :
    simpleName (p ++ n) = simpleName n := by
  have hnone : p.toList.reverse.takeWhile (· ≠ '.') = [] := by
    have h := congrArg String.toList (simpleName_eq_empty_iff.2 hp)
    rwa [toList_simpleName, List.rtakeWhile, String.toList_empty, List.reverse_eq_nil_iff] at h
  rw [← String.toList_inj, toList_simpleName, toList_simpleName, String.toList_append,
    List.rtakeWhile, List.reverse_append, List.takeWhile_append]
  split
  · rename_i hlength
    rw [hnone, List.append_nil, List.rtakeWhile,
      (List.takeWhile_prefix _).eq_of_length hlength]
  · rfl

theorem packagePart_append {p : String} (hp : IsPackage p) (n : String) :
    packagePart (p ++ n) = p ++ packagePart n := by
  have hsplit : packagePart (p ++ n) ++ simpleName n = p ++ packagePart n ++ simpleName n := by
    rw [String.append_assoc, packagePart_append_simpleName n, ← simpleName_append hp n,
      packagePart_append_simpleName]
  exact String.append_left_inj _ |>.1 hsplit

/-! ## Dropped endings -/

theorem dropEnding_append_self (ending s : String) : dropEnding ending (s ++ ending) = s := by
  have hsuffix : ending.toList.isSuffixOf (s ++ ending).toList = true := by
    rw [List.isSuffixOf_iff_suffix, String.toList_append]
    exact List.suffix_append ..
  rw [dropEnding, if_pos hsuffix, ← String.toList_inj, String.toList_ofList, String.toList_append]
  simp

theorem dropEnding_of_not_suffix {ending s : String} (h : ¬ ending.toList <:+ s.toList) :
    dropEnding ending s = s := by
  rw [dropEnding, if_neg]
  rwa [List.isSuffixOf_iff_suffix]

theorem exists_eq_append_of_suffix {ending s : String} (h : ending.toList <:+ s.toList) :
    ∃ rest, s = rest ++ ending := by
  obtain ⟨cs, hcs⟩ := h
  refine ⟨String.ofList cs, ?_⟩
  rw [← String.toList_inj, String.toList_append, String.toList_ofList, hcs]

/-- An ending without a dot does not reach into a package. -/
theorem suffix_of_suffix_append {ending p n : String} (he : IsSimple ending) (hp : IsPackage p)
    (h : ending.toList <:+ (p ++ n).toList) : ending.toList <:+ n.toList := by
  rw [String.toList_append] at h
  rcases Nat.le_total ending.toList.length n.toList.length with hle | hle
  · exact List.suffix_of_suffix_length_le h (List.suffix_append ..) hle
  · -- The name is an ending of the ending, so nothing of the package can be left in front of it.
    obtain ⟨front, hfront⟩ := List.suffix_of_suffix_length_le (List.suffix_append ..) h hle
    rw [← hfront, List.suffix_append_inj_of_length_eq rfl] at h
    obtain ⟨rest, hrest⟩ := h.1
    rcases List.eq_nil_or_concat front with rfl | ⟨cs, c, rfl⟩
    · exact ⟨[], hfront.symm⟩
    · have hlast : p.toList.getLast? = some c := by simp [← hrest]
      refine absurd ?_ he
      rcases hp with rfl | hdot
      · exact absurd hlast (by simp)
      · rw [hlast] at hdot
        rw [← hfront, Option.some.inj hdot]
        simp

/-- **Dropping an ending without a dot leaves the package alone.** -/
theorem dropEnding_append {ending p : String} (he : IsSimple ending) (hp : IsPackage p)
    (n : String) : dropEnding ending (p ++ n) = p ++ dropEnding ending n := by
  by_cases h : ending.toList <:+ n.toList
  · obtain ⟨rest, rfl⟩ := exists_eq_append_of_suffix h
    rw [← String.append_assoc, dropEnding_append_self, dropEnding_append_self]
  · rw [dropEnding_of_not_suffix h,
      dropEnding_of_not_suffix fun h' => h (suffix_of_suffix_append he hp h')]

theorem isSimple_dropEnding {n : String} (ending : String) (h : IsSimple n) :
    IsSimple (dropEnding ending n) := by
  by_cases hsuffix : ending.toList <:+ n.toList
  · obtain ⟨rest, rfl⟩ := exists_eq_append_of_suffix hsuffix
    rw [dropEnding_append_self]
    intro hdot
    rw [IsSimple, String.toList_append] at h
    exact h (List.mem_append_left _ hdot)
  · rwa [dropEnding_of_not_suffix hsuffix]

theorem dropEnding_eq_empty_iff {ending n : String} :
    dropEnding ending n = "" ↔ n = "" ∨ n = ending := by
  by_cases h : ending.toList <:+ n.toList
  · obtain ⟨rest, rfl⟩ := exists_eq_append_of_suffix h
    have hself : rest ++ ending = ending ↔ rest = "" := by
      conv_lhs => rhs; rw [← String.empty_append (s := ending)]
      exact String.append_left_inj _
    rw [dropEnding_append_self, hself, String.append_eq_empty_iff]
    exact ⟨Or.inr, fun hn => hn.elim And.left id⟩
  · rw [dropEnding_of_not_suffix h]
    refine ⟨Or.inl, fun hn => hn.resolve_right ?_⟩
    rintro rfl
    exact h (List.suffix_refl _)

/-! ## Names of components -/

/-- What a component is called behind the package: the override, or else the simple name of the
spec without the ending of specs. -/
def ownName (qualified : String) (simple : Option String) : String :=
  (simple.filter fun n => !Text.isBlank n).getD (dropEnding specSuffix (simpleName qualified))

/-- **A component has the package of its spec in front of its own name.** -/
theorem component_eq_append (qualified : String) (simple : Option String) :
    component qualified simple = packagePart qualified ++ ownName qualified simple := by
  rw [component, ownName]
  cases simple.filter fun n => !Text.isBlank n with
  | some n => rfl
  | none =>
      rw [Option.getD_none, ← dropEnding_append (by decide) (isPackage_packagePart qualified),
        packagePart_append_simpleName]

theorem packagePart_component (qualified : String) (simple : Option String) :
    packagePart (component qualified simple)
      = packagePart qualified ++ packagePart (ownName qualified simple) := by
  rw [component_eq_append, packagePart_append (isPackage_packagePart qualified)]

theorem simpleName_component (qualified : String) (simple : Option String) :
    simpleName (component qualified simple) = simpleName (ownName qualified simple) := by
  rw [component_eq_append, simpleName_append (isPackage_packagePart qualified)]

theorem ownName_of_blank {qualified : String} {simple : Option String}
    (h : ∀ n, simple = some n → Text.isBlank n = true) :
    ownName qualified simple = dropEnding specSuffix (simpleName qualified) := by
  rw [ownName]
  cases simple with
  | none => rw [Option.filter_none, Option.getD_none]
  | some n => simp [Option.filter, h n rfl]

theorem ownName_of_not_blank {qualified n : String} (h : Text.isBlank n = false) :
    ownName qualified (some n) = n := by
  simp [ownName, Option.filter, h]

theorem ne_empty_of_not_blank {n : String} (h : Text.isBlank n = false) : n ≠ "" := by
  rintro rfl
  exact Bool.false_ne_true (h.symm.trans Text.isBlank_empty)

end Name

namespace Draft

open Name

theorem names_of_build {d : Draft} {m : Model} (h : d.build = .ok m) :
    m.specName = simpleName m.specTypeName.text
      ∧ m.componentTypeName.text = component m.specTypeName.text d.componentSimpleName
      ∧ m.componentName = simpleName m.componentTypeName.text := by
  obtain ⟨qualified, anchor, -, rfl⟩ := build_eq_ok_iff.1 h
  exact ⟨rfl, rfl, rfl⟩

/-- **When a component stays in the package of its spec.** Without an override, or with a blank one,
it does, and it has a name unless the spec is called by nothing but the ending of specs. An
override is put behind the package as it is. So the package is that of the spec, and the
component's name is the override, exactly if the override has no dot, and the component has a name
exactly if the override does not end with a dot. -/
theorem componentNames_of_build {d : Draft} {m : Model} (h : d.build = .ok m)
    (hspec : m.specName ≠ "") :
    ((∀ n, d.componentSimpleName = some n → Text.isBlank n = true) →
        packagePart m.componentTypeName.text = packagePart m.specTypeName.text
          ∧ (m.componentName = "" ↔ m.specName = "Spec"))
      ∧ ∀ n, d.componentSimpleName = some n → Text.isBlank n = false →
        m.componentTypeName.text = packagePart m.specTypeName.text ++ n
          ∧ (packagePart m.componentTypeName.text = packagePart m.specTypeName.text ↔
            '.' ∉ n.toList)
          ∧ (m.componentName = n ↔ '.' ∉ n.toList)
          ∧ (m.componentName = "" ↔ n.toList.getLast? = some '.') := by
  obtain ⟨hsimple, htype, hname⟩ := names_of_build h
  have hpackage : packagePart m.componentTypeName.text = packagePart m.specTypeName.text
      ↔ IsSimple (ownName m.specTypeName.text d.componentSimpleName) := by
    rw [htype, packagePart_component, ← packagePart_eq_empty_iff]
    simp
  rw [htype, simpleName_component] at hname
  constructor
  · intro hblank
    rw [hpackage, hname, ownName_of_blank hblank]
    have hown := isSimple_dropEnding specSuffix (isSimple_simpleName m.specTypeName.text)
    refine ⟨hown, ?_⟩
    rw [simpleName_eq_self_iff.2 hown, dropEnding_eq_empty_iff, ← hsimple]
    exact ⟨fun hempty => hempty.resolve_left hspec, Or.inr⟩
  · intro n hn hblank
    rw [hpackage, hname, htype, component_eq_append, hn, ownName_of_not_blank hblank]
    refine ⟨rfl, Iff.rfl, simpleName_eq_self_iff, ?_⟩
    rw [simpleName_eq_empty_iff, IsPackage]
    exact ⟨fun hempty => hempty.resolve_left (ne_empty_of_not_blank hblank), Or.inr⟩

/-- A spec without props, under a name and with an override for the name of its component. -/
def specNamed (qualified : String) (simple : Option String) : Draft :=
  { qualifiedName := some qualified
    componentSimpleName := simple
    props := some []
    anchor := some { origin := "CardSpec.java" } }

/-- The model of `specNamed`. -/
def modelNamed (qualified : String) (simple : Option String) : Model :=
  (specNamed qualified simple).modelOf qualified { origin := "CardSpec.java" }

theorem build_specNamed {qualified : String} (h : Text.isBlank qualified = false)
    (simple : Option String) :
    (specNamed qualified simple).build = .ok (modelNamed qualified simple) := by
  rw [build_eq_ok_iff]
  exact ⟨_, _, checked_eq_ok_iff.2 ⟨⟨rfl, h⟩, by simp [specNamed, Xor], rfl⟩, rfl⟩

/-- The ending of specs is dropped once, and a blank override is none. -/
theorem componentNames_cardSpecSpec :
    packagePart (modelNamed "com.example.CardSpecSpec" (some " ")).componentTypeName.text
        = "com.example."
      ∧ (modelNamed "com.example.CardSpecSpec" (some " ")).componentName ≠ ""
      ∧ (modelNamed "com.example.CardSpecSpec" (some "Fancy")).componentName = "Fancy" := by
  have hspec : ∀ simple, (modelNamed "com.example.CardSpecSpec" simple).specName ≠ "" :=
    fun simple => by
      show simpleName "com.example.CardSpecSpec" ≠ ""
      decide +kernel
  have hblank := (componentNames_of_build (build_specNamed (by decide) (some " ")) (hspec _)).1
    fun n hn => by cases hn; decide
  have hfancy := (componentNames_of_build (build_specNamed (by decide) (some "Fancy")) (hspec _)).2
    "Fancy" rfl (by decide)
  refine ⟨hblank.1.trans (by decide +kernel), ?_, hfancy.2.2.1.2 (by decide)⟩
  rw [Ne, hblank.2]
  decide +kernel

/-- An override with a dot leads out of the package, and dropping the ending of specs may leave
nothing. -/
theorem componentNames_outside_package :
    (specNamed "com.example.CardSpec" (some "ui.FancyCard")).build
        = .ok (modelNamed "com.example.CardSpec" (some "ui.FancyCard"))
      ∧ (modelNamed "com.example.CardSpec" (some "ui.FancyCard")).specName ≠ ""
      ∧ packagePart (modelNamed "com.example.CardSpec"
        (some "ui.FancyCard")).componentTypeName.text ≠ packagePart "com.example.CardSpec"
      ∧ (modelNamed "com.example.CardSpec" (some "ui.FancyCard")).componentName ≠ "ui.FancyCard"
      ∧ (specNamed "com.example.Spec" none).build = .ok (modelNamed "com.example.Spec" none)
      ∧ (modelNamed "com.example.Spec" none).specName ≠ ""
      ∧ (modelNamed "com.example.Spec" none).componentName = "" :=
  ⟨build_specNamed (by decide) _, by decide +kernel, by decide +kernel, by decide +kernel,
    build_specNamed (by decide) _, by decide +kernel, by decide +kernel⟩

end Draft
end ComponentSpec
