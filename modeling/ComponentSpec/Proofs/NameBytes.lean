import ComponentSpec.Proofs.Names
import Mathlib.Data.List.Induction

set_option autoImplicit false

/-! # Where a name is cut

A name is a run of bytes, and it is cut behind the last byte of a dot. A dot is one byte, which no
other character has among its own (`Name.ne_dotByte_of_mem`), so that no character is cut in two:
the package and the simple name are the bytes before and behind the cut (`Name.utf8_packagePart`,
`Name.utf8_simpleName`). The ending of specs has no dot, so dropping it from the whole name is
dropping it behind the cut (`Name.parts_and_component`). -/

namespace ComponentSpec
namespace Name

/-! ## Dots among bytes -/

/-- The bytes of a text. -/
def utf8 (s : String) : List UInt8 :=
  s.toList.flatMap String.utf8EncodeChar

/-- The byte of a dot. -/
def dotByte : UInt8 :=
  46

theorem utf8_append (s t : String) : utf8 (s ++ t) = utf8 s ++ utf8 t := by
  unfold utf8
  rw [String.toList_append, List.flatMap_append]

/-- The bytes of a character are the character itself, as one byte, or none of them is below 128. -/
theorem toNat_eq_or_ge_of_mem {c : Char} {b : UInt8} (hb : b ∈ String.utf8EncodeChar c) :
    b.toNat = c.val.toNat ∨ 128 ≤ b.toNat := by
  unfold String.utf8EncodeChar at hb
  dsimp only at hb
  split_ifs at hb with hone
  · rw [List.mem_singleton] at hb
    subst hb
    refine Or.inl ?_
    rw [UInt8.toNat_ofNat']
    omega
  -- What is left are the characters of two, three and four bytes.
  all_goals
    refine Or.inr ?_
    simp only [List.mem_cons, List.not_mem_nil, or_false] at hb
    rcases hb with rfl | rfl | rfl | rfl
    all_goals
      rw [UInt8.toNat_ofNat']
      omega

/-- No other character has the byte of a dot. -/
theorem ne_dotByte_of_mem {c : Char} (hc : c ≠ '.') {b : UInt8} (hb : b ∈ String.utf8EncodeChar c) :
    b ≠ dotByte := by
  rintro rfl
  rcases toNat_eq_or_ge_of_mem hb with hval | hge
  · exact hc (Char.ext (UInt32.toNat_inj.1 hval.symm))
  · exact absurd hge (by decide)

/-- A last part that passes the test in full stays behind what is kept of the first. -/
theorem rtakeWhile_append_of_all {α : Type} {p : α → Bool} (l : List α) {m : List α}
    (h : ∀ a ∈ m, p a = true) : (l ++ m).rtakeWhile p = l.rtakeWhile p ++ m := by
  unfold List.rtakeWhile
  rw [List.reverse_append, List.takeWhile_append_of_pos, List.reverse_append, List.reverse_reverse]
  intro a ha
  exact h a (List.mem_reverse.1 ha)

/-- The characters behind the last dot are the bytes behind the last byte of a dot. -/
theorem flatMap_rtakeWhile_ne_dot (cs : List Char) :
    (cs.rtakeWhile (· ≠ '.')).flatMap String.utf8EncodeChar
      = (cs.flatMap String.utf8EncodeChar).rtakeWhile (· ≠ dotByte) := by
  induction cs using List.reverseRecOn with
  | nil => rfl
  | append_singleton cs c ih =>
      rw [List.flatMap_append, List.flatMap_singleton]
      by_cases hc : c = '.'
      · subst hc
        have hdot : String.utf8EncodeChar '.' = [dotByte] := by decide
        rw [hdot, List.rtakeWhile_concat_neg _ _ _ (by decide),
          List.rtakeWhile_concat_neg _ _ _ (by decide)]
        rfl
      · have hkept : ∀ b ∈ String.utf8EncodeChar c, decide (b ≠ dotByte) = true := by
          intro b hb
          exact decide_eq_true (ne_dotByte_of_mem hc hb)
        have hlast : decide (c ≠ '.') = true := decide_eq_true hc
        rw [List.rtakeWhile_concat_pos (· ≠ '.') _ _ hlast, List.flatMap_append,
          List.flatMap_singleton, ih, rtakeWhile_append_of_all _ hkept]

theorem utf8_simpleName (q : String) :
    utf8 (simpleName q) = (utf8 q).rtakeWhile (· ≠ dotByte) := by
  unfold utf8
  rw [toList_simpleName]
  exact flatMap_rtakeWhile_ne_dot q.toList

/-- **The cut is behind the last byte of a dot**, or before the first byte where there is none. -/
theorem utf8_packagePart (q : String) :
    utf8 (packagePart q) = (utf8 q).rdropWhile (· ≠ dotByte) := by
  have hname : utf8 (packagePart q) ++ utf8 (simpleName q) = utf8 q := by
    rw [← utf8_append, packagePart_append_simpleName]
  have hbytes : (utf8 q).rdropWhile (· ≠ dotByte) ++ utf8 (simpleName q) = utf8 q := by
    rw [utf8_simpleName, List.rdropWhile_append_rtakeWhile]
  exact List.append_cancel_right (hname.trans hbytes.symm)

/-! ## The parts of a component's name -/

/-- Without an override a component is called by the simple name of its spec, but for the ending. -/
theorem simpleName_component_of_blank {q : String} {simple : Option String}
    (h : ∀ n, simple = some n → Text.isBlank n = true) :
    simpleName (component q simple) = dropEnding specSuffix (simpleName q) := by
  rw [simpleName_component, ownName_of_blank h, simpleName_eq_self_iff]
  exact isSimple_dropEnding specSuffix (isSimple_simpleName q)

theorem packagePart_component_of_blank {q : String} {simple : Option String}
    (h : ∀ n, simple = some n → Text.isBlank n = true) :
    packagePart (component q simple) = packagePart q := by
  have hsimple : IsSimple (dropEnding specSuffix (simpleName q)) :=
    isSimple_dropEnding specSuffix (isSimple_simpleName q)
  rw [packagePart_component, ownName_of_blank h, packagePart_eq_empty_iff.2 hsimple,
    String.append_empty]

/-- **Names split without loss, and the ending of specs is dropped from the simple name alone.** The
package and the simple name make up the name, the simple name has no dot, and the package is empty
or ends with one; in bytes they are what stands before and behind the place after the last dot. With
no override, or a blank one, the component has the package of its spec, and for a simple name the
simple name of the spec without one `Spec` at its end, or as it is if it does not end so. -/
theorem parts_and_component (q : String) :
    packagePart q ++ simpleName q = q
      ∧ '.' ∉ (simpleName q).toList
      ∧ (packagePart q = "" ∨ (packagePart q).toList.getLast? = some '.')
      ∧ utf8 (packagePart q) = (utf8 q).rdropWhile (· ≠ dotByte)
      ∧ utf8 (simpleName q) = (utf8 q).rtakeWhile (· ≠ dotByte)
      ∧ ∀ simple : Option String, (∀ n, simple = some n → Text.isBlank n = true) →
        packagePart (component q simple) = packagePart q
          ∧ (∀ rest, simpleName q = rest ++ "Spec" → simpleName (component q simple) = rest)
          ∧ ((¬ ∃ rest, simpleName q = rest ++ "Spec") →
            simpleName (component q simple) = simpleName q) := by
  refine ⟨packagePart_append_simpleName q, isSimple_simpleName q, isPackage_packagePart q,
    utf8_packagePart q, utf8_simpleName q, ?_⟩
  intro simple hblank
  refine ⟨packagePart_component_of_blank hblank, ?_, ?_⟩
  · intro rest hrest
    rw [simpleName_component_of_blank hblank, hrest]
    exact dropEnding_append_self "Spec" rest
  · intro hnone
    rw [simpleName_component_of_blank hblank]
    refine dropEnding_of_not_suffix ?_
    intro hsuffix
    exact hnone (exists_eq_append_of_suffix hsuffix)

/-- Of two endings one is dropped, behind a package of longer characters. -/
theorem parts_and_component_longCharacters :
    packagePart (component "com.exämple.KårtSpecSpec" (some "\u2003")) = "com.exämple."
      ∧ simpleName (component "com.exämple.KårtSpecSpec" (some "\u2003")) = "KårtSpec"
      ∧ simpleName (component "com.exämple.Kårt" none) = "Kårt" := by
  obtain ⟨-, -, -, -, -, hspec⟩ := parts_and_component "com.exämple.KårtSpecSpec"
  obtain ⟨-, -, -, -, -, hother⟩ := parts_and_component "com.exämple.Kårt"
  have hblank : ∀ n, some "\u2003" = some n → Text.isBlank n = true := by
    intro n hn
    cases hn
    decide
  obtain ⟨hpackage, hending, -⟩ := hspec (some "\u2003") hblank
  obtain ⟨-, -, hkept⟩ := hother none (by simp)
  refine ⟨hpackage.trans (by decide +kernel), hending "KårtSpec" (by decide +kernel), ?_⟩
  have hname : simpleName "com.exämple.Kårt" = "Kårt" := by decide +kernel
  refine (hkept ?_).trans hname
  rintro ⟨rest, hrest⟩
  have hlast := congrArg (fun s : String => s.toList.getLast?) (hname.symm.trans hrest)
  simp at hlast

end Name
end ComponentSpec
