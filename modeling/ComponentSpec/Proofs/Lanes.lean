import ComponentSpec.Fingerprint
import Mathlib.Logic.Function.Basic

set_option autoImplicit false

/-! # Lanes keep apart

The multiplier of a step is odd, so it has an inverse modulo 2^64 and no two lanes come together in
a step, nor in a run over the same bytes (`Lane.run_injective`). The two lanes of a fingerprint
start from different seeds and take the same bytes, in whatever chunks these come, and so they
differ after every one of them (`Fingerprint.lanes_apart`). For the same reason a lane that has
taken one byte in place of another is told from the lane that has not, however much follows
(`Lane.run_ne_of_differAtOne`). -/

namespace ComponentSpec

namespace Lane

/-! ## One step -/

/-- The number that takes the multiplication of a step back. -/
def inversePrime : UInt64 :=
  0xce965057aff6957b

theorem prime_mul_inversePrime : prime * inversePrime = 1 := by
  decide

theorem mul_prime_injective : Function.Injective fun lane : UInt64 => lane * prime := by
  refine Function.LeftInverse.injective (g := fun lane => lane * inversePrime) fun lane => ?_
  show lane * prime * inversePrime = lane
  rw [UInt64.mul_assoc, prime_mul_inversePrime, UInt64.mul_one]

/-- Lanes that differ take the same byte to different lanes. -/
theorem step_injective (b : UInt8) : Function.Injective fun lane => step lane b := by
  intro lane lane' h
  exact (UInt64.xor_left_inj _).1 (mul_prime_injective h)

/-- A lane takes different bytes to different lanes. -/
theorem step_byte_injective (lane : UInt64) : Function.Injective (step lane) := by
  intro b b' h
  exact UInt8.toUInt64_inj.1 ((UInt64.xor_right_inj _).1 (mul_prime_injective h))

/-! ## Runs -/

/-- **Lanes that differ never meet** on a run over the same bytes. -/
theorem run_injective (bytes : List UInt8) : Function.Injective fun lane => run lane bytes := by
  induction bytes with
  | nil => exact Function.injective_id
  | cons b bytes ih => exact ih.comp (step_injective b)

end Lane

/-! ## Chunks -/

namespace Fingerprint

/-- Both lanes after a chunk of bytes, each after the whole of it. -/
def absorb (f : Fingerprint) (chunk : List UInt8) : Fingerprint :=
  ⟨Lane.run f.hi chunk, Lane.run f.lo chunk⟩

/-- Both lanes over bytes that come in chunks. -/
def ofChunks (chunks : List (List UInt8)) : Fingerprint :=
  chunks.foldl absorb ⟨Lane.highSeed, Lane.lowSeed⟩

theorem absorb_absorb (f : Fingerprint) (a b : List UInt8) :
    (f.absorb a).absorb b = f.absorb (a ++ b) := by
  rw [absorb, absorb, absorb, Lane.run_append, Lane.run_append]

theorem foldl_absorb (f : Fingerprint) (chunks : List (List UInt8)) :
    chunks.foldl absorb f = f.absorb chunks.flatten := by
  induction chunks generalizing f with
  | nil => rfl
  | cons chunk chunks ih => rw [List.foldl_cons, ih, absorb_absorb, List.flatten_cons]

/-- Where one chunk ends and the next begins makes no difference. -/
theorem ofChunks_eq_ofBytes (chunks : List (List UInt8)) :
    ofChunks chunks = ofBytes chunks.flatten :=
  foldl_absorb _ chunks

theorem absorb_ofChunks (chunks : List (List UInt8)) (bytes : List UInt8) :
    (ofChunks chunks).absorb bytes = ofBytes (chunks.flatten ++ bytes) := by
  rw [ofChunks, foldl_absorb, absorb_absorb]
  rfl

theorem hi_ne_lo_ofBytes (bytes : List UInt8) : (ofBytes bytes).hi ≠ (ofBytes bytes).lo := by
  intro h
  have hseeds : Lane.highSeed = Lane.lowSeed := Lane.run_injective bytes h
  exact absurd hseeds (by decide)

/-- **The lanes of a fingerprint keep apart.** Whatever chunks have been taken, after any number of
bytes of the next one the two lanes differ, and all chunks together are one run over their bytes. So
the halves of every model's fingerprint differ. -/
theorem lanes_apart :
    (∀ (taken : List (List UInt8)) (chunk : List UInt8) (n : Nat),
        ((ofChunks taken).absorb (chunk.take n)).hi ≠ ((ofChunks taken).absorb (chunk.take n)).lo)
      ∧ (∀ chunks : List (List UInt8), ofChunks chunks = ofBytes chunks.flatten)
      ∧ ∀ m : Model, m.fingerprint.hi ≠ m.fingerprint.lo := by
  refine ⟨fun taken chunk n => ?_, ofChunks_eq_ofBytes, fun m => ?_⟩
  · rw [absorb_ofChunks]
    exact hi_ne_lo_ofBytes (taken.flatten ++ chunk.take n)
  · exact hi_ne_lo_ofBytes (Surface.ofModel m)

end Fingerprint

/-! ## One byte in place of another -/

/-- Two runs of bytes have one length and differ at exactly one position. -/
def DifferAtOne (a b : List UInt8) : Prop :=
  a.length = b.length ∧ ∃! i : Nat, a[i]? ≠ b[i]?

/-- Runs that differ at one position agree before it and behind it. -/
theorem DifferAtOne.exists_split {a b : List UInt8} (h : DifferAtOne a b) :
    ∃ before x y after, a = before ++ x :: after ∧ b = before ++ y :: after ∧ x ≠ y := by
  obtain ⟨hlength, i, hi, honly⟩ := h
  have hagree : ∀ j, j ≠ i → a[j]? = b[j]? := fun j hj => by
    by_contra hne
    exact hj (honly j hne)
  have hia : i < a.length := by
    by_contra hge
    rw [Nat.not_lt] at hge
    exact hi (by rw [List.getElem?_eq_none hge, List.getElem?_eq_none (hlength ▸ hge)])
  have hib : i < b.length := hlength ▸ hia
  have hbefore : a.take i = b.take i := List.ext_getElem? fun j => by
    rw [List.getElem?_take, List.getElem?_take]
    split
    · next hj => exact hagree j (Nat.ne_of_lt hj)
    · rfl
  have hafter : a.drop (i + 1) = b.drop (i + 1) := List.ext_getElem? fun j => by
    rw [List.getElem?_drop, List.getElem?_drop]
    exact hagree _ (by omega)
  refine ⟨a.take i, a[i], b[i], a.drop (i + 1), ?_, ?_, fun heq => hi ?_⟩
  · rw [List.getElem_cons_drop, List.take_append_drop]
  · rw [hbefore, hafter, List.getElem_cons_drop, List.take_append_drop]
  · rw [List.getElem?_eq_getElem hia, List.getElem?_eq_getElem hib, heq]

theorem differAtOne_of_split {x y : UInt8} (hne : x ≠ y) (before after : List UInt8) :
    DifferAtOne (before ++ x :: after) (before ++ y :: after) := by
  refine ⟨by simp, before.length, by simpa using hne, fun j hj => ?_⟩
  by_contra hji
  refine hj ?_
  rcases Nat.lt_or_gt_of_ne hji with hlt | hgt
  · rw [List.getElem?_append_left hlt, List.getElem?_append_left hlt]
  · obtain ⟨k, rfl⟩ := Nat.exists_eq_add_of_lt hgt
    have hbehind : ∀ z, (before ++ z :: after)[before.length + k + 1]? = after[k]? := fun z => by
      rw [Nat.add_assoc, List.getElem?_append_right (Nat.le_add_right ..), Nat.add_sub_cancel_left,
        List.getElem?_cons_succ]
    rw [hbehind, hbehind]

theorem DifferAtOne.append_left {a b : List UInt8} (h : DifferAtOne a b) (more : List UInt8) :
    DifferAtOne (more ++ a) (more ++ b) := by
  obtain ⟨before, x, y, after, rfl, rfl, hne⟩ := h.exists_split
  rw [← List.append_assoc, ← List.append_assoc]
  exact differAtOne_of_split hne (more ++ before) after

theorem DifferAtOne.append_right {a b : List UInt8} (h : DifferAtOne a b) (more : List UInt8) :
    DifferAtOne (a ++ more) (b ++ more) := by
  obtain ⟨before, x, y, after, rfl, rfl, hne⟩ := h.exists_split
  rw [List.append_assoc, List.append_assoc, List.cons_append, List.cons_append]
  exact differAtOne_of_split hne before (after ++ more)

namespace Lane

/-- **One changed byte changes a lane**, wherever it stands and whatever follows: up to it the lane
is the same, on it the lane parts, and no later byte brings it back. -/
theorem run_ne_of_differAtOne (lane : UInt64) {a b : List UInt8} (h : DifferAtOne a b) :
    run lane a ≠ run lane b := by
  obtain ⟨before, x, y, after, rfl, rfl, hne⟩ := h.exists_split
  rw [run_append, run_append]
  intro heq
  have hstep : step (run lane before) x = step (run lane before) y := run_injective after heq
  exact hne (step_byte_injective _ hstep)

end Lane

theorem Fingerprint.halves_ne_of_differAtOne {a b : List UInt8} (h : DifferAtOne a b) :
    (ofBytes a).hi ≠ (ofBytes b).hi ∧ (ofBytes a).lo ≠ (ofBytes b).lo :=
  ⟨Lane.run_ne_of_differAtOne Lane.highSeed h, Lane.run_ne_of_differAtOne Lane.lowSeed h⟩

end ComponentSpec
