import ComponentSpec.Proofs.FinalProps

set_option autoImplicit false

/-! # Diffs next to declared props

What diffs wrap comes after the declared props, so the declared props are merged among themselves
and diffs at most append to them. A diff appends nothing if it finds the prop it wraps, and it looks
for that under two names only: the declared one and the one cached at the place of the diff. A
declared prop has the name cached at its own place, so a diff may miss the prop that it was declared
for. `finalProps_wrapped_eq_iff` says exactly when no diff misses it. -/

namespace ComponentSpec

/-! ## Runs that keep nothing -/

theorem foldl_keep_eq_self_iff {kept cs : List Candidate} :
    cs.foldl keep kept = kept ↔ ∀ c ∈ cs, ∃ k ∈ kept, c.mergesInto k.prop = true := by
  induction cs with
  | nil => simp
  | cons c cs ih =>
      rw [List.foldl_cons, List.forall_mem_cons, ← List.any_eq_true]
      cases hm : kept.any fun k => c.mergesInto k.prop with
      | true =>
          rw [keep_of_merges hm, ih]
          simp
      | false =>
          -- A kept candidate stays, so the run ends longer than it began.
          obtain ⟨added, hrun, -⟩ := foldl_keep_eq_append cs (kept ++ [c])
          rw [keep_of_not_merges hm, hrun]
          simp

/-- Each candidate gives way to a survivor, which may be itself. -/
theorem exists_survivor {cs : List Candidate} {c : Candidate} (hc : c ∈ cs) :
    ∃ k ∈ survivors cs, c.mergesInto k.prop = true := by
  obtain ⟨before, after, rfl⟩ := List.append_of_mem hc
  obtain ⟨added, hsurv, -⟩ := survivors_append_cons before after c
  rw [hsurv]
  cases hm : (survivors before).any fun k => c.mergesInto k.prop with
  | true =>
      obtain ⟨k, hk, hkm⟩ := List.any_eq_true.1 hm
      rw [keep_of_merges hm]
      exact ⟨k, List.mem_append_left _ hk, hkm⟩
  | false =>
      rw [keep_of_not_merges hm]
      exact ⟨c, List.mem_append_left _ (List.mem_append_right _ (List.mem_singleton_self c)),
        Candidate.mergesInto_of_key_eq rfl⟩

/-! ## Declared props, then diffs -/

section

variable (base : List PropParam) (diffs : List PropDiff) (cache : NameCache)

/-- The declared props as candidates. -/
def declaredCandidates : List Candidate :=
  base.zipIdx.map fun e => .declared cache e.2 e.1

/-- What diffs behind the declared props wrap, as candidates. -/
def wrappedCandidates : List Candidate :=
  (diffs.zipIdx base.length).map fun e => .wrapped cache e.2 e.1

theorem finalProps_wrapped :
    finalProps (base ++ diffs.map (·.underlying)) diffs cache
      = ((wrappedCandidates base diffs cache).foldl keep
          (survivors (declaredCandidates base cache))).map (·.prop) := by
  rw [finalProps_append_underlying, candidates, survivors, List.foldl_append]
  rfl

theorem finalProps_declared :
    finalProps base [] cache = (survivors (declaredCandidates base cache)).map (·.prop) := by
  rw [finalProps_eq_survivors, candidates]
  simp [declaredCandidates]

/-- **The declared props come first**, as they are without the diffs. -/
theorem finalProps_declared_isPrefix :
    finalProps base [] cache <+: finalProps (base ++ diffs.map (·.underlying)) diffs cache := by
  obtain ⟨added, hrun, -⟩ := foldl_keep_eq_append (wrappedCandidates base diffs cache)
    (survivors (declaredCandidates base cache))
  rw [finalProps_wrapped, finalProps_declared, hrun, List.map_append]
  exact List.prefix_append ..

end

variable {base : List PropParam} {diffs : List PropDiff} {cache : NameCache}

theorem mem_declaredCandidates_iff {c : Candidate} :
    c ∈ declaredCandidates base cache ↔
      ∃ i p, base[i]? = some p ∧ c = .declared cache i p := by
  simp only [declaredCandidates, List.mem_map, Prod.exists, List.mem_zipIdx_iff_getElem?]
  exact ⟨fun ⟨p, i, hp, hc⟩ => ⟨i, p, hp, hc.symm⟩, fun ⟨i, p, hp, hc⟩ => ⟨p, i, hp, hc.symm⟩⟩

theorem mem_wrappedCandidates_iff {c : Candidate} :
    c ∈ wrappedCandidates base diffs cache ↔
      ∃ j d, diffs[j]? = some d ∧ c = .wrapped cache (base.length + j) d := by
  simp only [wrappedCandidates, List.mem_map, Prod.exists,
    List.mk_mem_zipIdx_iff_le_and_getElem?_sub]
  constructor
  · rintro ⟨d, i, ⟨hle, hd⟩, rfl⟩
    exact ⟨i - base.length, d, hd, by rw [Nat.add_sub_cancel' hle]⟩
  · rintro ⟨j, d, hd, rfl⟩
    exact ⟨d, base.length + j, ⟨Nat.le_add_right .., by rwa [Nat.add_sub_cancel_left]⟩, rfl⟩

/-- Merging hides no key of a declared prop, so a diff finds one exactly if it would find it among
all of them. -/
theorem exists_survivor_wraps_iff {i : Nat} {d : PropDiff} :
    (∃ k ∈ survivors (declaredCandidates base cache),
        (Candidate.wrapped cache i d).mergesInto k.prop = true) ↔
      ∃ j p, base[j]? = some p ∧ d.wraps (cache.get? i) (cache.rename j p) = true := by
  constructor
  · rintro ⟨k, hk, hm⟩
    obtain ⟨j, p, hp, rfl⟩ := mem_declaredCandidates_iff.1 ((survivors_sublist _).mem hk)
    rw [← Candidate.wraps_eq_mergesInto] at hm
    exact ⟨j, p, hp, hm⟩
  · rintro ⟨j, p, hp, hwraps⟩
    obtain ⟨k, hk, hkey⟩ := exists_survivor (mem_declaredCandidates_iff.2 ⟨j, p, hp, rfl⟩)
    obtain ⟨hname, htype⟩ := keyOf_eq_iff.1 (Candidate.mergesInto_declared_iff.1 hkey)
    refine ⟨k, hk, ?_⟩
    rw [← Candidate.wraps_eq_mergesInto, PropDiff.wraps, hname, htype]
    exact hwraps

/-- **When diffs add nothing.** With or without diffs the declared props come first, merged among
themselves. The diffs add no prop exactly if each of them finds the prop it wraps: a declared prop
of its type that, under the name cached at its own place, has the name that the diff declares or the
name cached at the place of the diff. -/
theorem finalProps_wrapped_eq_iff (base : List PropParam) (diffs : List PropDiff)
    (cache : NameCache) :
    finalProps base [] cache <+: finalProps (base ++ diffs.map (·.underlying)) diffs cache
      ∧ (finalProps (base ++ diffs.map (·.underlying)) diffs cache = finalProps base [] cache ↔
        ∀ j (d : PropDiff), diffs[j]? = some d →
          ∃ i p, base[i]? = some p
            ∧ d.wraps (cache.get? (base.length + j)) (cache.rename i p) = true) := by
  refine ⟨finalProps_declared_isPrefix base diffs cache, ?_⟩
  have hrun : finalProps (base ++ diffs.map (·.underlying)) diffs cache = finalProps base [] cache
      ↔ (wrappedCandidates base diffs cache).foldl keep (survivors (declaredCandidates base cache))
        = survivors (declaredCandidates base cache) := by
    rw [finalProps_wrapped, finalProps_declared]
    refine ⟨fun h => ?_, congrArg _⟩
    obtain ⟨added, hadded, -⟩ := foldl_keep_eq_append (wrappedCandidates base diffs cache)
      (survivors (declaredCandidates base cache))
    rw [hadded] at h ⊢
    simpa using congrArg List.length h
  rw [hrun, foldl_keep_eq_self_iff]
  constructor
  · intro h j d hd
    exact exists_survivor_wraps_iff.1 (h _ (mem_wrappedCandidates_iff.2 ⟨j, d, hd, rfl⟩))
  · intro h c hc
    obtain ⟨j, d, hd, rfl⟩ := mem_wrappedCandidates_iff.1 hc
    exact exists_survivor_wraps_iff.2 (h j d hd)

/-- A prop declared as `title`. -/
def titleProp : PropParam :=
  { name := "title", typeName := ⟨"String"⟩ }

/-- A cached name for the declared prop alone hides it from its diff. -/
theorem finalProps_wrapped_renamed :
    finalProps ([titleProp] ++ [PropDiff.ofProp titleProp].map (·.underlying))
        [.ofProp titleProp] ⟨["heading"]⟩
      = [{ titleProp with name := "heading" }, titleProp]
    ∧ finalProps [titleProp] [] ⟨["heading"]⟩ = [{ titleProp with name := "heading" }]
    ∧ finalProps ([titleProp] ++ [PropDiff.ofProp titleProp].map (·.underlying))
        [.ofProp titleProp] ⟨["heading"]⟩
      ≠ finalProps [titleProp] [] ⟨["heading"]⟩ := by
  decide +kernel

end ComponentSpec
