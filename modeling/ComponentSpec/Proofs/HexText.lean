import ComponentSpec.Fingerprint
import Mathlib.Data.List.Induction

set_option autoImplicit false

/-! # Fingerprints as texts

A number that fits into a count of hexadecimal digits has one text of so many lower-case digits: the
last digit is the remainder by sixteen, and the others are the text of the quotient
(`Text.eq_hexPadded_of_readHex?`). A fingerprint is two such texts of 16 digits with nothing between
them. As each half has its full width, the halves are told apart again, and the text stands for no
other fingerprint (`Fingerprint.writtenAs_iff`). -/

namespace ComponentSpec

/-! ## Digits of one half -/

namespace Text

/-- **There is one text for a number and a width.** -/
theorem eq_hexPadded_of_readHex? {cs : List Char} {n : Nat} (hlower : ∀ c ∈ cs, c ∈ lowerHexDigits)
    (hread : readHex? cs = some n) : cs = hexPadded cs.length n := by
  induction cs using List.reverseRecOn generalizing n with
  | nil => rfl
  | append_singleton cs c ih =>
      obtain ⟨hcs, hc⟩ := List.forall_mem_append.1 hlower
      obtain ⟨d, hd, rfl⟩ := mem_lowerHexDigits_iff.1 (hc c List.mem_cons_self)
      rw [readHex?_concat, hexValue?_hexDigit d hd] at hread
      obtain ⟨m, hm, hn⟩ := Option.bind_eq_some_iff.1 hread
      obtain rfl : m * 16 + d = n := Option.some.inj hn
      have hquotient : (m * 16 + d) / 16 = m := by omega
      have hremainder : (m * 16 + d) % 16 = d := by omega
      rw [List.length_append, List.length_singleton, hexPadded, hquotient, hremainder, ← ih hcs hm]

end Text

/-! ## The text of both halves -/

namespace Fingerprint

open Text (hexPadded lowerHexDigits readHex?)

/-- The text has 32 lower-case digits, of which the first 16 denote the high half and the last 16
the low one. -/
structure WrittenAs (f : Fingerprint) (t : String) : Prop where
  length : t.length = 32
  digits : ∀ c ∈ t.toList, c ∈ lowerHexDigits
  hi : readHex? (t.toList.take 16) = some f.hi.toNat
  lo : readHex? (t.toList.drop 16) = some f.lo.toNat

theorem toList_text (f : Fingerprint) :
    f.text.toList = hexPadded 16 f.hi.toNat ++ hexPadded 16 f.lo.toNat := by
  unfold text
  rw [String.toList_ofList]

theorem readHex?_hexPadded_toNat (n : UInt64) : readHex? (hexPadded 16 n.toNat) = some n.toNat :=
  Text.readHex?_hexPadded 16 n.toNat n.toNat_lt

theorem writtenAs_text (f : Fingerprint) : f.WrittenAs f.text := by
  have hwidth : 16 = (hexPadded 16 f.hi.toNat).length := by simp
  constructor
  · rw [← String.length_toList, toList_text, List.length_append, Text.length_hexPadded,
      Text.length_hexPadded]
  · intro c hc
    rw [toList_text, List.mem_append] at hc
    rcases hc with hc | hc
    · exact Text.mem_lowerHexDigits_of_mem_hexPadded hc
    · exact Text.mem_lowerHexDigits_of_mem_hexPadded hc
  · rw [toList_text, List.take_left' hwidth.symm, readHex?_hexPadded_toNat]
  · rw [toList_text, List.drop_left' hwidth.symm, readHex?_hexPadded_toNat]

theorem WrittenAs.eq_text {f : Fingerprint} {t : String} (h : f.WrittenAs t) : t = f.text := by
  have hlength : t.toList.length = 32 := by rw [String.length_toList, h.length]
  have htake : (t.toList.take 16).length = 16 := by simp [hlength]
  have hdrop : (t.toList.drop 16).length = 16 := by simp [hlength]
  have hhi : t.toList.take 16 = hexPadded 16 f.hi.toNat := by
    have heq := Text.eq_hexPadded_of_readHex?
      (fun c hc => h.digits c (List.mem_of_mem_take hc)) h.hi
    rwa [htake] at heq
  have hlo : t.toList.drop 16 = hexPadded 16 f.lo.toNat := by
    have heq := Text.eq_hexPadded_of_readHex?
      (fun c hc => h.digits c (List.mem_of_mem_drop hc)) h.lo
    rwa [hdrop] at heq
  rw [← String.toList_inj, toList_text, ← hhi, ← hlo, List.take_append_drop]

/-- What a text denotes is one fingerprint. -/
theorem WrittenAs.unique {f g : Fingerprint} {t : String} (hf : f.WrittenAs t)
    (hg : g.WrittenAs t) : f = g := by
  obtain ⟨fhi, flo⟩ := f
  obtain ⟨ghi, glo⟩ := g
  have hhi : fhi = ghi := UInt64.toNat_inj.1 (Option.some.inj (hf.hi.symm.trans hg.hi))
  have hlo : flo = glo := UInt64.toNat_inj.1 (Option.some.inj (hf.lo.symm.trans hg.lo))
  rw [hhi, hlo]

/-- **The text of a fingerprint tells it.** The text has 32 characters, all of them lower-case
digits, the first half of which denotes the high half of the fingerprint and the second the low one,
leading zeros included; no other text does so. Two fingerprints have the same text only if they
are equal. -/
theorem writtenAs_iff :
    (∀ hi lo : UInt64, ∀ t : String, WrittenAs ⟨hi, lo⟩ t ↔ t = text ⟨hi, lo⟩)
      ∧ ∀ f g : Fingerprint, f.text = g.text ↔ f = g := by
  refine ⟨fun hi lo t => ⟨WrittenAs.eq_text, ?_⟩, fun f g => ⟨fun h => ?_, congrArg text⟩⟩
  · rintro rfl
    exact writtenAs_text ⟨hi, lo⟩
  · exact (h ▸ writtenAs_text f).unique (writtenAs_text g)

example : text ⟨0x1f, 0xa0⟩ = "000000000000001f00000000000000a0" := by decide

end Fingerprint
end ComponentSpec
