import ComponentSpec.Proofs.DeclaredDiffs

set_option autoImplicit false

/-! # What comes later changes nothing before it

A run over the candidates keeps one or passes it over, and never takes back one that it kept. So
whatever is declared or wrapped behind the first candidates can only add to the survivors among
these (`survivors_append`), and a prop that is scanned later stands behind the earlier ones even if
its cached name is one of theirs. `finalProps_declared_extends` says so of the final props: those of
the declared props alone come first, as they are, and what follows are later props under their
cached names, in their order. -/

namespace ComponentSpec

/-! ## Longer runs -/

/-- The survivors of a longer list begin with those of the shorter one. -/
theorem survivors_append (cs later : List Candidate) :
    ∃ added, survivors (cs ++ later) = survivors cs ++ added ∧ added.Sublist later := by
  obtain ⟨added, hrun, hsub⟩ := foldl_keep_eq_append later (survivors cs)
  refine ⟨added, ?_, hsub⟩
  rw [survivors, List.foldl_append, ← survivors, hrun]

theorem NameCache.renameFrom_append {α : Type} [Renamable α] (cache : NameCache) (start : Nat)
    (as bs : List α) :
    cache.renameFrom start (as ++ bs)
      = cache.renameFrom start as ++ cache.renameFrom (start + as.length) bs := by
  unfold renameFrom
  rw [List.mapIdx_append]
  simp only [Nat.add_comm, Nat.add_left_comm]

/-! ## Candidates behind the declared ones -/

section

variable (base extra : List PropParam) (diffs : List PropDiff) (cache : NameCache)

/-- The candidates behind those of the first declared props. -/
def laterCandidates : List Candidate :=
  (extra.zipIdx base.length).map (fun e => .declared cache e.2 e.1)
    ++ wrappedCandidates (base ++ extra) diffs cache

/-- A declared prop makes the same candidate whatever stands behind it. -/
theorem candidates_append :
    candidates (base ++ extra) diffs cache
      = declaredCandidates base cache ++ laterCandidates base extra diffs cache := by
  rw [candidates, List.zipIdx_append, List.map_append, List.append_assoc, Nat.zero_add]
  rfl

theorem map_prop_laterCandidates :
    (laterCandidates base extra diffs cache).map (·.prop)
      = cache.renameFrom base.length (extra ++ diffs.map (·.underlying)) := by
  have hall := map_prop_candidates (base ++ extra) diffs cache
  rw [candidates_append, List.map_append, List.append_assoc, NameCache.renameFrom_append,
    Nat.zero_add] at hall
  refine List.append_inj_right hall ?_
  simp [declaredCandidates]

end

/-! ## Final props of longer lists -/

/-- More declared props and diffs append final props, and nothing else. -/
theorem exists_finalProps_eq_append (base extra : List PropParam) (diffs : List PropDiff)
    (cache : NameCache) :
    ∃ added, finalProps (base ++ extra ++ diffs.map (·.underlying)) diffs cache
        = finalProps base [] cache ++ added
      ∧ added.Sublist (cache.renameFrom base.length (extra ++ diffs.map (·.underlying))) := by
  obtain ⟨added, hrun, hsub⟩ := survivors_append (declaredCandidates base cache)
    (laterCandidates base extra diffs cache)
  refine ⟨added.map (·.prop), ?_, ?_⟩
  · rw [finalProps_append_underlying, candidates_append, hrun, List.map_append,
      finalProps_declared]
  · rw [← map_prop_laterCandidates]
    exact hsub.map _

/-- **Later props never disturb earlier ones.** With one cache, the final props of some declared
props are the first ones as well when diffs follow, and when more declared props and other diffs
follow. What stands behind them is made of the props that follow, each under the name cached for its
own place, and in their order. -/
theorem finalProps_declared_extends (base extra : List PropParam) (diffs diffs' : List PropDiff)
    (cache : NameCache) :
    finalProps base [] cache <+: finalProps (base ++ diffs.map (·.underlying)) diffs cache
      ∧ finalProps base [] cache
        <+: finalProps (base ++ extra ++ diffs'.map (·.underlying)) diffs' cache
      ∧ ((finalProps (base ++ extra ++ diffs'.map (·.underlying)) diffs' cache).drop
          (finalProps base [] cache).length).Sublist
        (cache.renameFrom base.length (extra ++ diffs'.map (·.underlying))) := by
  obtain ⟨added, heq, hsub⟩ := exists_finalProps_eq_append base extra diffs' cache
  refine ⟨finalProps_declared_isPrefix base diffs cache, ?_, ?_⟩
  · rw [heq]
    exact List.prefix_append ..
  · rw [heq, List.drop_left]
    exact hsub

/-- With `title` renamed to `count`, a later `count` gives way to it, and a diff of `title` comes
behind it as a prop of its own. -/
example :
    let prop (name : String) : PropParam := { name := name, typeName := ⟨"String"⟩ }
    let diffs := [PropDiff.ofProp (prop "title")]
    finalProps ([prop "title"] ++ [prop "count"] ++ diffs.map (·.underlying)) diffs ⟨["count"]⟩
      = finalProps [prop "title"] [] ⟨["count"]⟩ ++ [prop "title"] := by
  decide +kernel

end ComponentSpec
