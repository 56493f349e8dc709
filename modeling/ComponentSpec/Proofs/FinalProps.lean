import ComponentSpec.Proofs.KeyedSet
import ComponentSpec.Props
import Mathlib.Data.List.Sort

set_option autoImplicit false

/-! # Final props are the candidates that survive

Each raw prop is a candidate for a final one, under the name that the cache has for its position.
The candidates come one after the other, and one of them gives way to a prop that was kept before
it, has the same type and also its name; what a diff wraps gives way to a prop of its declared name
as well. `finalProps_eq_survivors`: the final props are the props of the candidates that give way
to none, in the order of their positions, whatever the cache. -/

namespace ComponentSpec

/-! ## Renamed declarations -/

/-- A renamed declaration has the new name, and its own name changes nothing. -/
class LawfulRenamable (α : Type) [Declared α] [Renamable α] : Prop where
  name_withName : ∀ (a : α) (n : String), Declared.name (Renamable.withName a n) = n
  withName_name : ∀ a : α, Renamable.withName a (Declared.name a) = a

instance : LawfulRenamable PropParam := ⟨fun _ _ => rfl, fun _ => rfl⟩
instance : LawfulRenamable InjectParam := ⟨fun _ _ => rfl, fun _ => rfl⟩

namespace NameCache

/-- Without a cached name a declaration is renamed to its own. -/
theorem rename_eq_withName {α : Type} [Declared α] [Renamable α] [LawfulRenamable α]
    (cache : NameCache) (i : Nat) (a : α) :
    cache.rename i a = Renamable.withName a ((cache.get? i).getD (Declared.name a)) := by
  unfold rename
  cases cache.get? i with
  | none => exact (LawfulRenamable.withName_name a).symm
  | some n => rfl

theorem typeName_rename (cache : NameCache) (i : Nat) (p : PropParam) :
    (cache.rename i p).typeName = p.typeName := by
  rw [rename_eq_withName]
  rfl

theorem some_name_rename (cache : NameCache) (i : Nat) (p : PropParam) :
    some (cache.rename i p).name = (cache.get? i).or (some p.name) := by
  rw [rename_eq_withName, Option.or_some]
  rfl

end NameCache

/-! ## Candidates -/

/-- A raw prop on its way to the final props. -/
structure Candidate where
  /-- Where the raw prop stands, which is also where the cache is asked for its name. -/
  position : Nat
  /-- The prop under its cached name. -/
  prop : PropParam
  /-- The declared name of what a diff wraps. -/
  otherName : Option String

theorem keyOf_eq_iff {p q : PropParam} :
    Key.of p = Key.of q ↔ p.name = q.name ∧ p.typeName = q.typeName :=
  Iff.of_eq (Key.mk.injEq ..)

namespace Candidate

/-- A declared prop as a candidate. -/
def declared (cache : NameCache) (i : Nat) (p : PropParam) : Candidate :=
  ⟨i, cache.rename i p, none⟩

/-- What a diff wraps as a candidate. -/
def wrapped (cache : NameCache) (i : Nat) (d : PropDiff) : Candidate :=
  ⟨i, cache.rename i d.underlying, some d.underlying.name⟩

/-- Whether the candidate gives way to `p`. -/
def mergesInto (c : Candidate) (p : PropParam) : Bool :=
  (p.name = c.prop.name || c.otherName = some p.name) && p.typeName = c.prop.typeName

theorem mergesInto_iff {c : Candidate} {p : PropParam} :
    c.mergesInto p = true ↔
      (p.name = c.prop.name ∨ c.otherName = some p.name) ∧ p.typeName = c.prop.typeName := by
  simp [mergesInto]

theorem mergesInto_of_key_eq {c : Candidate} {p : PropParam} (h : Key.of p = Key.of c.prop) :
    c.mergesInto p = true := by
  obtain ⟨hname, htype⟩ := keyOf_eq_iff.1 h
  exact mergesInto_iff.2 ⟨Or.inl hname, htype⟩

theorem mergesInto_declared_iff {cache : NameCache} {i : Nat} {p q : PropParam} :
    (declared cache i p).mergesInto q = true ↔ Key.of q = Key.of (cache.rename i p) := by
  rw [keyOf_eq_iff, mergesInto_iff]
  simp [declared]

/-- A diff looks for its prop as its candidate does. -/
theorem wraps_eq_mergesInto (cache : NameCache) (i : Nat) (d : PropDiff) (q : PropParam) :
    d.wraps (cache.get? i) q = (wrapped cache i d).mergesInto q := by
  unfold mergesInto wrapped PropDiff.wraps NameCache.rename
  cases cache.get? i with
  | none => simp [eq_comm]
  | some n => simp [Renamable.withName, eq_comm, Bool.or_comm]

end Candidate

/-- The candidates that the raw props make: the declared props, then what each diff wraps. -/
def candidates (declared : List PropParam) (diffs : List PropDiff) (cache : NameCache) :
    List Candidate :=
  (declared.zipIdx.map fun e => .declared cache e.2 e.1)
    ++ (diffs.zipIdx declared.length).map fun e => .wrapped cache e.2 e.1

/-- The candidate at a position is the raw prop there, and remembers a declared name exactly if
a diff wraps it. -/
theorem getElem?_candidates (declared : List PropParam) (diffs : List PropDiff)
    (cache : NameCache) (i : Nat) :
    (candidates declared diffs cache)[i]?
      = (declared ++ diffs.map (·.underlying))[i]?.map fun p =>
          ⟨i, cache.rename i p, if i < declared.length then none else some p.name⟩ := by
  have hcount : (declared.zipIdx.map fun e => Candidate.declared cache e.2 e.1).length
      = declared.length := by
    rw [List.length_map, List.length_zipIdx]
  rw [candidates]
  by_cases hi : i < declared.length
  · rw [List.getElem?_append_left (by rwa [hcount]), List.getElem?_append_left hi,
      List.getElem?_map, List.getElem?_zipIdx, Option.map_map]
    simp [Function.comp_def, Candidate.declared, hi]
  · -- A diff's place is counted from the declared props, as its candidate's position is.
    have hle : declared.length ≤ i := Nat.le_of_not_lt hi
    rw [List.getElem?_append_right (by rwa [hcount]), List.getElem?_append_right hle, hcount,
      List.getElem?_map, List.getElem?_zipIdx, List.getElem?_map, Option.map_map, Option.map_map,
      Nat.add_sub_cancel' hle]
    simp [Function.comp_def, Candidate.wrapped, hi]

/-- A candidate stands where its raw prop does. -/
theorem exists_of_mem_candidates {declared : List PropParam} {diffs : List PropDiff}
    {cache : NameCache} {c : Candidate} (hc : c ∈ candidates declared diffs cache) :
    ∃ p, (declared ++ diffs.map (·.underlying))[c.position]? = some p
      ∧ c = ⟨c.position, cache.rename c.position p,
        if c.position < declared.length then none else some p.name⟩ := by
  obtain ⟨i, hi⟩ := List.getElem?_of_mem hc
  rw [getElem?_candidates, Option.map_eq_some_iff] at hi
  obtain ⟨p, hp, rfl⟩ := hi
  exact ⟨p, hp, rfl⟩

theorem map_position_candidates (declared : List PropParam) (diffs : List PropDiff)
    (cache : NameCache) :
    (candidates declared diffs cache).map (·.position)
      = List.range (declared ++ diffs.map (·.underlying)).length := by
  refine List.ext_getElem? fun i => ?_
  rw [List.getElem?_map, getElem?_candidates, Option.map_map]
  by_cases hi : i < (declared ++ diffs.map (·.underlying)).length
  · rw [List.getElem?_eq_getElem hi, List.getElem?_range hi]
    rfl
  · rw [List.getElem?_eq_none (Nat.le_of_not_lt hi),
      List.getElem?_eq_none (by rw [List.length_range]; exact Nat.le_of_not_lt hi)]
    rfl

theorem pairwise_position_candidates (declared : List PropParam) (diffs : List PropDiff)
    (cache : NameCache) : (candidates declared diffs cache).Pairwise (·.position < ·.position) := by
  rw [← List.pairwise_map (f := Candidate.position), map_position_candidates]
  exact List.pairwise_lt_range

/-- The candidates hold the raw props under their cached names. -/
theorem map_prop_candidates (declared : List PropParam) (diffs : List PropDiff)
    (cache : NameCache) :
    (candidates declared diffs cache).map (·.prop)
      = cache.renameFrom 0 (declared ++ diffs.map (·.underlying)) := by
  refine List.ext_getElem? fun i => ?_
  rw [List.getElem?_map, getElem?_candidates, Option.map_map, NameCache.getElem?_renameFrom,
    Nat.zero_add]
  rfl

/-- Caches that give the raw props the same names make the same candidates. -/
theorem candidates_congr {declared : List PropParam} {diffs : List PropDiff} {c c' : NameCache}
    (h : ∀ i p, (declared ++ diffs.map (·.underlying))[i]? = some p →
      c.rename i p = c'.rename i p) :
    candidates declared diffs c = candidates declared diffs c' := by
  refine List.ext_getElem? fun i => ?_
  rw [getElem?_candidates, getElem?_candidates]
  cases hp : (declared ++ diffs.map (·.underlying))[i]? with
  | none => rfl
  | some p => rw [Option.map_some, Option.map_some, h i p hp]

/-! ## Survivors -/

/-- The kept candidates, with one more if it gives way to none of them. -/
def keep (kept : List Candidate) (c : Candidate) : List Candidate :=
  if kept.any fun k => c.mergesInto k.prop then kept else kept ++ [c]

/-- The candidates that give way to none kept before them. -/
def survivors (cs : List Candidate) : List Candidate :=
  cs.foldl keep []

theorem keep_of_merges {kept : List Candidate} {c : Candidate}
    (h : (kept.any fun k => c.mergesInto k.prop) = true) : keep kept c = kept :=
  if_pos h

theorem keep_of_not_merges {kept : List Candidate} {c : Candidate}
    (h : (kept.any fun k => c.mergesInto k.prop) = false) : keep kept c = kept ++ [c] :=
  if_neg (by rw [h]; exact Bool.false_ne_true)

/-- A run only appends, and only candidates that it was given, in their order. -/
theorem foldl_keep_eq_append (cs kept : List Candidate) :
    ∃ added, cs.foldl keep kept = kept ++ added ∧ added.Sublist cs := by
  induction cs generalizing kept with
  | nil => exact ⟨[], (List.append_nil kept).symm, List.Sublist.refl []⟩
  | cons c cs ih =>
      obtain ⟨added, hrun, hsub⟩ := ih (keep kept c)
      cases hm : kept.any fun k => c.mergesInto k.prop with
      | true =>
          rw [keep_of_merges hm] at hrun
          exact ⟨added, by rw [List.foldl_cons, keep_of_merges hm, hrun], hsub.cons c⟩
      | false =>
          rw [keep_of_not_merges hm] at hrun
          refine ⟨c :: added, ?_, hsub.cons_cons c⟩
          rw [List.foldl_cons, keep_of_not_merges hm, hrun, List.append_assoc,
            List.singleton_append]

theorem survivors_sublist (cs : List Candidate) : (survivors cs).Sublist cs := by
  obtain ⟨added, hrun, hsub⟩ := foldl_keep_eq_append cs []
  rw [survivors, hrun]
  exact hsub

/-- **No survivor gives way to another before it.** -/
theorem pairwise_survivors (cs : List Candidate) :
    (survivors cs).Pairwise fun k c => c.mergesInto k.prop = false := by
  suffices h : ∀ kept : List Candidate, (kept.Pairwise fun k c => c.mergesInto k.prop = false) →
      (cs.foldl keep kept).Pairwise fun k c => c.mergesInto k.prop = false from
    h [] List.Pairwise.nil
  induction cs with
  | nil => exact fun kept hk => hk
  | cons c cs ih =>
      intro kept hk
      refine ih (keep kept c) ?_
      cases hm : kept.any fun k => c.mergesInto k.prop with
      | true => rwa [keep_of_merges hm]
      | false =>
          rw [keep_of_not_merges hm]
          refine List.pairwise_append.2 ⟨hk, List.pairwise_singleton .., ?_⟩
          intro k hkmem c' hc'
          rw [List.mem_singleton] at hc'
          subst hc'
          exact Bool.eq_false_iff.2 (List.any_eq_false.1 hm k hkmem)

/-- A run comes past each candidate: it keeps it or not, and then only appends later ones. -/
theorem survivors_append_cons (before after : List Candidate) (c : Candidate) :
    ∃ added, survivors (before ++ c :: after) = keep (survivors before) c ++ added
      ∧ added.Sublist after := by
  obtain ⟨added, hrun, hadded⟩ := foldl_keep_eq_append after (keep (survivors before) c)
  refine ⟨added, ?_, hadded⟩
  rw [← hrun, survivors, List.foldl_append, List.foldl_cons, ← survivors]

/-- **A candidate survives exactly if it gives way to no survivor before it.** -/
theorem mem_survivors_iff {cs : List Candidate} (hpos : cs.Pairwise (·.position < ·.position))
    {c : Candidate} (hc : c ∈ cs) :
    c ∈ survivors cs ↔
      ∀ k ∈ survivors cs, k.position < c.position → c.mergesInto k.prop = false := by
  obtain ⟨before, after, rfl⟩ := List.append_of_mem hc
  obtain ⟨-, hcafter, hbefore⟩ := List.pairwise_append.1 hpos
  obtain ⟨added, hsurv, hadded⟩ := survivors_append_cons before after c
  -- The positions tell what was kept before `c` from what is appended after it.
  have hlt : ∀ k ∈ survivors before, k.position < c.position := fun k hk =>
    hbefore k ((survivors_sublist before).mem hk) c List.mem_cons_self
  have hgt : ∀ k ∈ added, c.position < k.position := fun k hk =>
    (List.pairwise_cons.1 hcafter).1 k (hadded.mem hk)
  rw [hsurv]
  cases hm : (survivors before).any fun k => c.mergesInto k.prop with
  | true =>
      obtain ⟨k, hk, hkm⟩ := List.any_eq_true.1 hm
      rw [keep_of_merges hm]
      constructor
      · intro hmem
        rcases List.mem_append.1 hmem with h | h
        · exact absurd (hlt c h) (Nat.lt_irrefl _)
        · exact absurd (hgt c h) (Nat.lt_irrefl _)
      · intro hnone
        have hnot := hnone k (List.mem_append_left _ hk) (hlt k hk)
        rw [hkm] at hnot
        exact absurd hnot (by simp)
  | false =>
      rw [keep_of_not_merges hm]
      constructor
      · intro _ k hk hkpos
        rw [List.append_assoc, List.singleton_append] at hk
        rcases List.mem_append.1 hk with h | h
        · exact Bool.eq_false_iff.2 (List.any_eq_false.1 hm k h)
        · rcases List.mem_cons.1 h with rfl | h
          · exact absurd hkpos (Nat.lt_irrefl _)
          · exact absurd hkpos (Nat.lt_asymm (hgt k h))
      · intro _
        exact List.mem_append_left _ (List.mem_append_right _ (List.mem_singleton_self c))

/-! ## The positions of survivors -/

theorem pairwise_position_survivors {cs : List Candidate}
    (hpos : cs.Pairwise (·.position < ·.position)) :
    ((survivors cs).map (·.position)).Pairwise (· < ·) :=
  List.pairwise_map.2 (hpos.sublist (survivors_sublist cs))

/-- A position is kept exactly if its candidate gives way to no kept one before it. -/
theorem position_mem_survivors_iff {cs : List Candidate}
    (hpos : cs.Pairwise (·.position < ·.position)) {c : Candidate} (hc : c ∈ cs) :
    c.position ∈ (survivors cs).map (·.position) ↔
      ∀ k ∈ survivors cs, k.position < c.position → c.mergesInto k.prop = false := by
  have hnodup : (cs.map (·.position)).Nodup := (List.pairwise_map.2 hpos).imp Nat.ne_of_lt
  rw [← mem_survivors_iff hpos hc, List.mem_map]
  constructor
  · rintro ⟨k, hk, hposition⟩
    have hkc : k = c := List.inj_on_of_nodup_map hnodup ((survivors_sublist cs).mem hk) hc hposition
    rwa [← hkc]
  · intro hs
    exact ⟨c, hs, rfl⟩

/-- What is asked of the members before `i` is the same of lists that agree before `i`. -/
theorem forall_mem_before_congr {l l' : List Nat} {i : Nat} {P : Nat → Prop}
    (h : ∀ k < i, k ∈ l ↔ k ∈ l') :
    (∀ k ∈ l, k < i → P k) ↔ ∀ k ∈ l', k < i → P k := by
  constructor
  · intro hall k hk hlt
    exact hall k ((h k hlt).2 hk) hlt
  · intro hall k hk hlt
    exact hall k ((h k hlt).1 hk) hlt

/-- Rising lists are equal if they agree on each position as soon as they agree on those before. -/
theorem eq_of_decided_before {l l' : List Nat} (h : l.Pairwise (· < ·)) (h' : l'.Pairwise (· < ·))
    (hstep : ∀ i, (∀ k < i, k ∈ l ↔ k ∈ l') → (i ∈ l ↔ i ∈ l')) : l = l' :=
  h.eq_of_mem_iff h' fun i => Nat.strongRecOn i hstep

/-! ## The run over the raw props -/

/-- The set has the props of the kept candidates. -/
structure Tracks (s : KeyedSet PropParam) (kept : List Candidate) : Prop where
  coherent : s.Coherent
  items : s.items = kept.map (·.prop)

theorem tracks_empty : Tracks {} [] :=
  ⟨KeyedSet.coherent_empty, rfl⟩

namespace Tracks

variable {s : KeyedSet PropParam} {kept : List Candidate}

theorem append (h : Tracks s kept) {c : Candidate}
    (hc : (kept.any fun k => c.mergesInto k.prop) = false) :
    Tracks (s.insert c.prop).2 (kept ++ [c]) := by
  have hnew : s.contains (.of c.prop) = false := by
    -- A prop with the key would be one to give way to.
    rw [Bool.eq_false_iff, Ne, h.coherent.contains_iff, h.items, List.map_map, List.mem_map]
    rintro ⟨k, hk, hkey⟩
    exact List.any_eq_false.1 hc k hk (Candidate.mergesInto_of_key_eq hkey)
  refine ⟨h.coherent.insert c.prop, ?_⟩
  rw [KeyedSet.items_insert, hnew, if_neg Bool.false_ne_true, h.items, List.map_append,
    List.map_singleton]

/-- A declared prop is put into the set exactly if its candidate is kept. -/
theorem insert_declared (cache : NameCache) (i : Nat) (p : PropParam) (h : Tracks s kept) :
    Tracks (s.insert (cache.rename i p)).2 (keep kept (.declared cache i p)) := by
  cases hm : kept.any fun k => (Candidate.declared cache i p).mergesInto k.prop with
  | true =>
      obtain ⟨k, hk, hkm⟩ := List.any_eq_true.1 hm
      have hold : s.contains (.of (cache.rename i p)) = true := by
        rw [h.coherent.contains_iff, h.items, ← Candidate.mergesInto_declared_iff.1 hkm]
        exact List.mem_map_of_mem (List.mem_map_of_mem hk)
      rwa [keep_of_merges hm, KeyedSet.insert_of_contains _ _ hold]
  | false =>
      rw [keep_of_not_merges hm]
      exact h.append hm

/-- A diff adds what it wraps exactly if that candidate is kept. -/
theorem addDiff (cache : NameCache) (i : Nat) (d : PropDiff) (h : Tracks s kept) :
    Tracks (addDiff cache s i d) (keep kept (.wrapped cache i d)) := by
  have hany : s.items.any (d.wraps (cache.get? i))
      = kept.any fun k => (Candidate.wrapped cache i d).mergesInto k.prop := by
    rw [h.items, List.any_map]
    exact congrArg kept.any (funext fun k => Candidate.wraps_eq_mergesInto cache i d k.prop)
  rw [ComponentSpec.addDiff, hany]
  cases hm : kept.any fun k => (Candidate.wrapped cache i d).mergesInto k.prop with
  | true => rwa [if_pos rfl, keep_of_merges hm]
  | false =>
      rw [if_neg Bool.false_ne_true, keep_of_not_merges hm]
      exact h.append hm

/-- **Simulation of a run**: what one step keeps, a run over any list keeps. -/
theorem foldl {β : Type} (step : KeyedSet PropParam → β → KeyedSet PropParam)
    (toCandidate : β → Candidate)
    (hstep : ∀ s kept b, Tracks s kept → Tracks (step s b) (keep kept (toCandidate b)))
    (bs : List β) (h : Tracks s kept) :
    Tracks (bs.foldl step s) ((bs.map toCandidate).foldl keep kept) := by
  induction bs generalizing s kept with
  | nil => exact h
  | cons b bs ih => exact ih (hstep s kept b h)

end Tracks

theorem tracks_declared (declared : List PropParam) (cache : NameCache) :
    Tracks (.ofList (cache.renameFrom 0 declared))
      (survivors (declared.zipIdx.map fun e => .declared cache e.2 e.1)) := by
  have hrename : cache.renameFrom 0 declared
      = declared.zipIdx.map fun e => cache.rename e.2 e.1 := by
    simp [NameCache.renameFrom, List.mapIdx_eq_zipIdx_map]
  rw [hrename, KeyedSet.ofList, List.foldl_map, survivors]
  exact tracks_empty.foldl _ _ (fun s kept e h => h.insert_declared cache e.2 e.1) _

/-- **The final props are the props of the surviving candidates**, for any raw props and diffs,
also for more diffs than raw props, and for any cache. -/
theorem finalProps_eq_survivors (raw : List PropParam) (diffs : List PropDiff)
    (cache : NameCache) :
    finalProps raw diffs cache
      = (survivors (candidates (raw.take (raw.length - diffs.length)) diffs cache)).map
          (·.prop) := by
  have hcount : (raw.take (raw.length - diffs.length)).length = raw.length - diffs.length := by
    rw [List.length_take]
    omega
  have hrun := (tracks_declared (raw.take (raw.length - diffs.length)) cache).foldl
    (fun s e => addDiff cache s e.2 e.1) (fun e => .wrapped cache e.2 e.1)
    (fun s kept e h => h.addDiff cache e.2 e.1) (diffs.zipIdx (raw.length - diffs.length))
  rw [finalProps, hrun.items, candidates, hcount]
  simp only [survivors, List.foldl_append]

/-- The same for raw props that are put together: the declared ones, then what the diffs wrap. -/
theorem finalProps_append_underlying (declared : List PropParam) (diffs : List PropDiff)
    (cache : NameCache) :
    finalProps (declared ++ diffs.map (·.underlying)) diffs cache
      = (survivors (candidates declared diffs cache)).map (·.prop) := by
  have htake : (declared ++ diffs.map (·.underlying)).take
      ((declared ++ diffs.map (·.underlying)).length - diffs.length) = declared := by
    rw [List.length_append, List.length_map, Nat.add_sub_cancel]
    exact List.take_left
  rw [finalProps_eq_survivors, htake]

/-- **Survivors have distinct keys.** -/
theorem nodup_key_survivors (cs : List Candidate) :
    ((survivors cs).map fun c => Key.of c.prop).Nodup := by
  refine List.pairwise_map.2 ((pairwise_survivors cs).imp ?_)
  intro k c hkc hkey
  rw [Candidate.mergesInto_of_key_eq hkey] at hkc
  exact absurd hkc (by simp)

end ComponentSpec
