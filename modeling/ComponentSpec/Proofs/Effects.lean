import ComponentSpec.Proofs.Loading
import ComponentSpec.Proofs.Requests

set_option autoImplicit false

/-! # What a run does to the files

A run reads what it needs before it writes anything, and it writes at most once, as its last step.
`FileSystem` says what it may rely on: reading changes nothing, nor does a write that fails, and a
write that succeeds changes one file. Files in memory are such a system
(`Directory.fileSystem`). `CommandLine.run_effects`: a run that fails leaves everything as it was
and prints nothing, and a run that succeeds changes the one file that it was asked to write. Asked
for help or for its version the program runs no command: it prints a page, and that is all. As help
comes before the command (`CommandLine.ofArgs?_append_help`), what a command would have written is
not written when help is asked for behind it. -/

namespace ComponentSpec

/-! ## File systems -/

/-- Files in a world `σ`, with what a program may rely on. -/
structure FileSystem (σ : Type) where
  files : Files (StateM σ)
  /-- Where files can be. -/
  Place : Type
  /-- The text of the file at a place. -/
  text? : σ → Place → Option String
  /-- The place that a path leads to, if texts are kept there. -/
  place? : σ → String → Option Place
  run_read : ∀ path s, ((files.read path).run s).2 = s
  run_write_error : ∀ {path text s f s'}, (files.write path text).run s = (.error f, s') → s' = s
  text?_written : ∀ {path text s s' p}, (files.write path text).run s = (.ok (), s') →
    place? s path = some p → text? s' p = some text
  text?_other : ∀ {path text s s' p}, (files.write path text).run s = (.ok (), s') →
    place? s path ≠ some p → text? s' p = text? s p

/-- Only the file that a path leads to has changed, and it holds the text now. -/
structure FileSystem.Wrote {σ : Type} (fs : FileSystem σ) (s s' : σ) (path text : String) :
    Prop where
  held : ∀ p, fs.place? s path = some p → fs.text? s' p = some text
  others : ∀ p, fs.place? s path ≠ some p → fs.text? s' p = fs.text? s p

theorem FileSystem.wrote_of_write {σ : Type} (fs : FileSystem σ) {s s' : σ} {path text : String}
    (h : (fs.files.write path text).run s = (.ok (), s')) : fs.Wrote s s' path text :=
  ⟨fun _ => fs.text?_written h, fun _ => fs.text?_other h⟩

namespace Directory

/-- The name of the file that a path leads to, if it lies in the directory. -/
def place? (d : Directory) (path : String) : Option (List String) :=
  match d.target path with
  | .ok ⟨.within name, last, _⟩ => some (name ++ [last])
  | _ => none

theorem run_write_inMemory (d : Directory) (path text : String) :
    (inMemory.write path text).run d
      = match d.write path text with
        | .ok d' => (.ok (), d')
        | .error f => (.error f, d) := by
  simp only [inMemory, StateT.run_bind, StateT.run_get, pure_bind]
  cases d.write path text with
  | ok d' => rfl
  | error f => rfl

/-- The device that drops what it is given does not lie in the directory. -/
theorem entry_within_ne_null (d : Directory) (name : List String) (part : String) :
    d.entry (.within name) part ≠ .ok .null := by
  rw [entry]
  repeat' split
  all_goals simp_all

/-- A write puts the text where the path leads, and changes nothing if that lies outside. -/
theorem write_eq_ok {d d' : Directory} {path text : String} (h : d.write path text = .ok d') :
    d' = match d.place? path with
      | some name => d.put name text
      | none => d := by
  simp only [write, bind, Except.bind] at h
  cases ht : d.target path with
  | error f => simp [ht] at h
  | ok t =>
      obtain ⟨folder, last, slash⟩ := t
      cases he : d.entry folder last with
      | error f => cases slash <;> simp [ht, he] at h
      | ok e =>
          have hnull : ∀ name, e = .null → folder ≠ .within name := by
            rintro name rfl rfl
            exact entry_within_ne_null d name last he
          cases slash <;> cases e <;> cases folder <;> simp_all [place?]

theorem eq_of_run_write {d d' : Directory} {path text : String}
    (h : (inMemory.write path text).run d = (.ok (), d')) :
    d' = match d.place? path with
      | some name => d.put name text
      | none => d := by
  rw [run_write_inMemory] at h
  cases hw : d.write path text with
  | error f => rw [hw] at h; cases h
  | ok written =>
      rw [hw] at h
      cases h
      exact write_eq_ok hw

/-- Files in memory, as a file system. -/
def fileSystem : FileSystem Directory where
  files := inMemory
  Place := List String
  text? := text?
  place? := place?
  run_read path d := by
    simp only [inMemory, StateT.run_bind, StateT.run_get, pure_bind]
    cases d.read path <;> rfl
  run_write_error {path text d f d'} h := by
    rw [run_write_inMemory] at h
    cases hw : d.write path text with
    | ok _ => rw [hw] at h; cases h
    | error _ => rw [hw] at h; cases h; rfl
  text?_written {path text d d' name} h hp := by
    rw [eq_of_run_write h, hp]
    simp [text?_put]
  text?_other {path text d d' name} h hp := by
    rw [eq_of_run_write h]
    cases hq : d.place? path with
    | none => rfl
    | some written =>
        have hne : name ≠ written := fun e => hp (e ▸ hq)
        simp [text?_put, hne]

theorem text?_of_wrote {d d' : Directory} {path text : String} {name : List String}
    (h : fileSystem.Wrote d d' path text) (hp : d.place? path = some name) :
    d'.text? name = some text := h.held name hp

theorem text?_eq_of_wrote {d d' : Directory} {path text : String} {name : List String}
    (h : fileSystem.Wrote d d' path text) (hp : d.place? path ≠ some name) :
    d'.text? name = d.text? name := h.others name hp

end Directory

/-! ## Computations that change nothing -/

section

variable {σ ε α β : Type}

/-- A computation that leaves the world as it is. -/
def Quiet (x : StateM σ α) : Prop :=
  ∀ s, (x.run s).2 = s

theorem Quiet.pure (a : α) : Quiet (Pure.pure a : StateM σ α) := fun _ => rfl

theorem Quiet.bind {x : StateM σ α} {f : α → StateM σ β} (hx : Quiet x) (hf : ∀ a, Quiet (f a)) :
    Quiet (x >>= f) := by
  intro s
  rw [StateT.run_bind]
  exact (hf _ _).trans (hx s)

theorem Quiet.map {x : StateM σ α} (f : α → β) (hx : Quiet x) : Quiet (f <$> x) := hx

theorem exists_of_run_map {x : StateM σ α} {f : α → β} {s s' : σ} {b : β}
    (h : (f <$> x).run s = (b, s')) : ∃ a, x.run s = (a, s') ∧ f a = b := by
  rw [StateT.run_map] at h
  cases hx : x.run s with
  | mk a t =>
      rw [hx] at h
      cases h
      exact ⟨a, rfl, rfl⟩

/-- A step that fails ends the computation, so a step that comes after it need not be looked at. -/
theorem Quiet.bind_except {x : ExceptT ε (StateM σ) α} {f : α → ExceptT ε (StateM σ) β}
    (hx : Quiet x.run) (hf : ∀ a, Quiet (f a).run) : Quiet (x >>= f).run := by
  rw [ExceptT.run_bind]
  refine hx.bind fun r => ?_
  cases r with
  | ok a => exact hf a
  | error e => exact .pure _

/-- After a step that changes nothing, the next one starts where the step did. -/
theorem Quiet.run_bind_except {x : ExceptT ε (StateM σ) α} (hx : Quiet x.run)
    (f : α → ExceptT ε (StateM σ) β) (s : σ) :
    (x >>= f).run.run s
      = match (x.run.run s).1 with
        | .ok a => (f a).run.run s
        | .error e => (.error e, s) := by
  have hs : (x.run.run s).2 = s := hx s
  rw [ExceptT.run_bind, StateT.run_bind]
  change StateT.run _ (x.run.run s).2 = _
  rw [hs]
  cases (x.run.run s).1 with
  | ok a => rfl
  | error e => rfl

end

/-! ## Commands -/

namespace CommandLine

variable {σ : Type} (fs : FileSystem σ)

theorem quiet_load (path : String) : Quiet (Document.load fs.files path) := by
  refine Quiet.bind (fs.run_read path) fun r => ?_
  split <;> exact .pure _

theorem quiet_loadModel (path : String) (cache : Option NameCache) :
    Quiet (loadModel fs.files path cache).run := by
  rw [run_loadModel]
  exact (quiet_load fs path).map _

theorem quiet_loadCache (path : String) : Quiet (loadCache fs.files path).run := by
  refine Quiet.bind_except (Quiet.map Except.ok (fs.run_read path)) fun r => ?_
  split
  · split <;> exact .pure _
  · exact .pure _
  · exact .pure _

/-- The model that `derive` gives, before it is written. -/
def derived {m : Type → Type} [Monad m] (files : Files m) (input : String)
    (cachedNames : Option String) : ExceptT Report m Model := do
  let cache ←
    match cachedNames with
    | some path => do pure (some (← loadCache files path))
    | none => pure none
  loadModel files input cache

theorem quiet_derived (input : String) (cachedNames : Option String) :
    Quiet (derived fs.files input cachedNames).run := by
  cases cachedNames with
  | none => exact quiet_loadModel fs input none
  | some path =>
      exact (quiet_loadCache fs path).bind_except fun cache => quiet_loadModel fs input (some cache)

/-- What the command line reports of a write. -/
def written (out : String) : Except PathFault Unit → Except Report String
  | .ok () => .ok ""
  | .error f => .error ⟨s!"create output {quotedPath out}", some f.message⟩

/-- What is done with a model that is to be written to a file. -/
def writeModel {m : Type → Type} [Monad m] (files : Files m) (out : String) (model : Model) :
    ExceptT Report m String := do
  match ← files.write out (Model.codec.toLines model) with
  | .ok () => return ""
  | .error f => throw ⟨s!"create output {quotedPath out}", some f.message⟩

section

variable {m : Type → Type} [Monad m] [LawfulMonad m] (files : Files m) (input : String)
  (cachedNames : Option String)

theorem run_derive_none :
    (Command.derive input cachedNames none).run files
      = (fun model => Model.codec.toLines model ++ "\n") <$> derived files input cachedNames := by
  cases cachedNames with
  | none => simp only [Command.run, derived, map_eq_pure_bind, pure_bind]
  | some path => simp only [Command.run, derived, map_eq_pure_bind, pure_bind, bind_assoc]

theorem run_derive_some (out : String) :
    (Command.derive input cachedNames (some out)).run files
      = derived files input cachedNames >>= writeModel files out := by
  cases cachedNames with
  | none =>
      simp only [Command.run, derived, pure_bind]
      rfl
  | some path =>
      simp only [Command.run, derived, pure_bind, bind_assoc]
      rfl

theorem run_writeModel (out : String) (model : Model) :
    (writeModel files out model).run
      = written out <$> files.write out (Model.codec.toLines model) := by
  refine (ExceptT.run_bind_lift _ _).trans ?_
  rw [map_eq_pure_bind]
  refine bind_congr fun r => ?_
  cases r with
  | ok => rfl
  | error f => rfl

end

/-- A command that has no file to write changes nothing. -/
theorem quiet_run {c : Command}
    (h : ∀ input cachedNames out, c ≠ .derive input cachedNames (some out)) :
    Quiet (c.run fs.files).run := by
  cases c with
  | derive input cachedNames out =>
      cases out with
      | none =>
          rw [run_derive_none, ExceptT.run_map]
          exact (quiet_derived fs input cachedNames).map _
      | some out => exact absurd rfl (h input cachedNames out)
  | names input => exact (quiet_loadModel fs input none).bind_except fun _ => .pure _
  | fingerprint input => exact (quiet_loadModel fs input none).bind_except fun _ => .pure _

/-- A model is written whole, or nothing is changed. -/
theorem run_writeModel_cases {out : String} {model : Model} {s s' : σ} {r : Except Report String}
    (h : (writeModel fs.files out model).run.run s = (r, s')) :
    (∃ e, r = .error e) ∧ s' = s
      ∨ r = .ok "" ∧ (fs.files.write out (Model.codec.toLines model)).run s = (.ok (), s') := by
  rw [run_writeModel] at h
  obtain ⟨w, hw, rfl⟩ := exists_of_run_map h
  cases w with
  | ok => exact .inr ⟨rfl, hw⟩
  | error f => exact .inl ⟨⟨_, rfl⟩, fs.run_write_error hw⟩

/-- A command that has a file to write fails and changes nothing, or writes the model as its last
step. -/
theorem run_derive_some_cases {input out : String} {cachedNames : Option String}
    {s s' : σ} {r : Except Report String}
    (h : ((Command.derive input cachedNames (some out)).run fs.files).run.run s = (r, s')) :
    (∃ e, r = .error e) ∧ s' = s
      ∨ ∃ model, ((derived fs.files input cachedNames).run.run s).1 = .ok model ∧ r = .ok ""
        ∧ (fs.files.write out (Model.codec.toLines model)).run s = (.ok (), s') := by
  rw [run_derive_some, (quiet_derived fs input cachedNames).run_bind_except] at h
  cases hd : ((derived fs.files input cachedNames).run.run s).1 with
  | error e =>
      rw [hd] at h
      cases h
      exact .inl ⟨⟨e, rfl⟩, rfl⟩
  | ok model =>
      rw [hd] at h
      exact (run_writeModel_cases fs h).imp_right fun hw => ⟨model, rfl, hw⟩

/-- The outcome of what a command gave. -/
def Outcome.ofResult : Except Report String → Outcome
  | .ok stdout => { stdout := stdout }
  | .error r => .failed r

section

variable (text : Page → String) {args : List String}

theorem run_eq_map {m : Type → Type} [Monad m] [LawfulMonad m] (files : Files m) {c : Command}
    (h : Request.ofArgs? args = some (.run c)) :
    run text files args = Outcome.ofResult <$> (c.run files).run := by
  rw [run, h, map_eq_pure_bind]
  refine bind_congr fun r => ?_
  cases r with
  | ok stdout => rfl
  | error r => rfl

/-- All that a run can come to: arguments that ask for nothing the program can do, a page that is
printed, or what a command gave. -/
theorem run_cases {s s' : σ} {o : Outcome} (h : (run text fs.files args).run s = (o, s')) :
    (Request.ofArgs? args = none ∧ o = .misused ∧ s' = s)
      ∨ (∃ page, Request.ofArgs? args = some (.page page) ∧ o = { stdout := text page } ∧ s' = s)
      ∨ ∃ c r, Request.ofArgs? args = some (.run c) ∧ (c.run fs.files).run.run s = (r, s')
        ∧ o = .ofResult r := by
  cases hrequest : Request.ofArgs? args with
  | none =>
      rw [run, hrequest] at h
      cases h
      exact .inl ⟨rfl, rfl, rfl⟩
  | some request =>
      cases request with
      | page page =>
          rw [run, hrequest] at h
          cases h
          exact .inr (.inl ⟨page, rfl, rfl, rfl⟩)
      | run c =>
          rw [run_eq_map text fs.files hrequest] at h
          obtain ⟨r, hr, rfl⟩ := exists_of_run_map h
          exact .inr (.inr ⟨c, r, rfl, hr, rfl⟩)

/-- A run that asks for no file changes nothing. -/
theorem eq_of_run_of_no_file {s s' : σ} {o : Outcome}
    (h : (run text fs.files args).run s = (o, s'))
    (hargs : ∀ input cachedNames out,
      Request.ofArgs? args ≠ some (.run (.derive input cachedNames (some out)))) : s' = s := by
  obtain ⟨-, -, hs⟩ | ⟨page, -, -, hs⟩ | ⟨c, r, hc, hr, -⟩ := run_cases fs text h
  · exact hs
  · exact hs
  · have hquiet : Quiet (c.run fs.files).run :=
      quiet_run fs fun input cachedNames out hderive =>
        hargs input cachedNames out (hderive ▸ hc)
    have hs := hquiet s
    rwa [hr] at hs

/-- A run that fails prints nothing. -/
theorem stdout_of_code_ne_zero {s s' : σ} {o : Outcome}
    (h : (run text fs.files args).run s = (o, s')) (hcode : o.code ≠ 0) : o.stdout = "" := by
  obtain ⟨-, rfl, -⟩ | ⟨page, -, rfl, -⟩ | ⟨c, r, -, -, rfl⟩ := run_cases fs text h
  · rfl
  · exact absurd rfl hcode
  · cases r with
    | ok stdout => exact absurd rfl hcode
    | error e => rfl

/-- A run that asks for a file fails and changes nothing, or prints nothing and writes the file. -/
theorem run_args_derive_some_cases {input out : String} {cachedNames : Option String}
    {s s' : σ} {o : Outcome}
    (hc : Request.ofArgs? args = some (.run (.derive input cachedNames (some out))))
    (h : (run text fs.files args).run s = (o, s')) :
    o.code ≠ 0 ∧ s' = s
      ∨ o = {} ∧ ∃ model, ((derived fs.files input cachedNames).run.run s).1 = .ok model
        ∧ (fs.files.write out (Model.codec.toLines model)).run s = (.ok (), s') := by
  rw [run_eq_map text fs.files hc] at h
  obtain ⟨r, hr, rfl⟩ := exists_of_run_map h
  obtain ⟨⟨e, rfl⟩, hs⟩ | ⟨model, hmodel, rfl, hwrite⟩ := run_derive_some_cases fs hr
  · exact .inl ⟨by simp [Outcome.ofResult, Outcome.failed], hs⟩
  · exact .inr ⟨rfl, model, hmodel, hwrite⟩

theorem run_args_derive_none {input : String} {cachedNames : Option String} {s : σ} {model : Model}
    (hc : Request.ofArgs? args = some (.run (.derive input cachedNames none)))
    (hmodel : ((derived fs.files input cachedNames).run.run s).1 = .ok model) :
    (run text fs.files args).run s = ({ stdout := Model.codec.toLines model ++ "\n" }, s) := by
  have hquiet : ((derived fs.files input cachedNames).run.run s).2 = s :=
    quiet_derived fs input cachedNames s
  rw [run_eq_map text fs.files hc, run_derive_none, StateT.run_map, ExceptT.run_map,
    StateT.run_map]
  cases hd : (derived fs.files input cachedNames).run.run s with
  | mk r t =>
      rw [hd] at hquiet hmodel
      cases hquiet
      cases hmodel
      rfl

end

/-- **A run that fails changes nothing and prints nothing**, whatever the arguments are. A request
for help or for the version is no run of a command: its page is printed and nothing changes. A
command that succeeds changes at most the file that `derive` was asked to write. That file then
holds what `derive` prints when it is asked for no file, less the end of the line, and nothing is
printed. -/
theorem run_effects (text : Page → String) (args : List String) (s s' : σ) (o : Outcome)
    (h : (run text fs.files args).run s = (o, s')) :
    (o.code ≠ 0 → o.stdout = "" ∧ s' = s)
      ∧ (∀ page, Request.ofArgs? args = some (.page page) → o = { stdout := text page } ∧ s' = s)
      ∧ ((∀ input cachedNames out,
            Request.ofArgs? args ≠ some (.run (.derive input cachedNames (some out)))) → s' = s)
      ∧ ∀ input cachedNames out,
          Request.ofArgs? args = some (.run (.derive input cachedNames (some out))) → o.code = 0 →
            o = {} ∧ ∃ model,
              (fs.files.write out (Model.codec.toLines model)).run s = (.ok (), s')
                ∧ fs.Wrote s s' out (Model.codec.toLines model)
                ∧ Request.ofArgs? (printArgs input cachedNames)
                  = some (.run (.derive input cachedNames none))
                ∧ ∀ args', Request.ofArgs? args' = some (.run (.derive input cachedNames none)) →
                  (run text fs.files args').run s
                    = ({ stdout := Model.codec.toLines model ++ "\n" }, s) := by
  refine ⟨fun hcode => ⟨stdout_of_code_ne_zero fs text h hcode, ?_⟩, fun page hpage => ?_,
    eq_of_run_of_no_file fs text h, fun input cachedNames out hc hcode => ?_⟩
  · by_cases hargs : ∃ input cachedNames out,
        Request.ofArgs? args = some (.run (.derive input cachedNames (some out)))
    · obtain ⟨input, cachedNames, out, hc⟩ := hargs
      obtain ⟨-, hs⟩ | ⟨rfl, -⟩ := run_args_derive_some_cases fs text hc h
      · exact hs
      · exact absurd rfl hcode
    · exact eq_of_run_of_no_file fs text h fun input cachedNames out hc =>
        hargs ⟨input, cachedNames, out, hc⟩
  · rw [run, hpage] at h
    cases h
    exact ⟨rfl, rfl⟩
  · obtain ⟨hfailed, -⟩ | ⟨ho, model, hmodel, hwrite⟩ := run_args_derive_some_cases fs text hc h
    · exact absurd hcode hfailed
    · exact ⟨ho, model, hwrite, fs.wrote_of_write hwrite, ofArgs?_printArgs hc, fun _ hprint =>
        run_args_derive_none fs text hprint hmodel⟩

/-- A directory with a document and the names of an earlier build. -/
def cardDirectory : Directory :=
  .ofTexts [
    ("card.json", "\x7b\"qualified_name\": \"CardSpec\", "
      ++ "\"origin\": \x7b\"origin\": \"Card.java\"\x7d, \"props\": []\x7d"),
    ("names.json", "[\"title\"]")]

/-- The arguments by which the document is read and written over. -/
def overwriteArgs : List String :=
  ["derive", "--in=card.json", "--cached-names", "names.json", "--out", "./card.json"]

/-- The arguments by which the document is to be written to a folder that is not there. -/
def lostArgs : List String :=
  ["derive", "--in=card.json", "--out", "missing/card.json"]

/-- The arguments by which it would be written over, if they did not ask for help. -/
def helpArgs : List String :=
  overwriteArgs ++ ["--help"]

/-- A run may write over the document that it has read, one that cannot write leaves it, and so does
one that is asked for help. -/
theorem run_effects_cardDirectory :
    (∃ text, runIn cardDirectory ["derive", "--in=card.json", "--cached-names", "names.json"]
          = ({ stdout := text ++ "\n" }, cardDirectory)
        ∧ (runIn cardDirectory overwriteArgs).2.text? ["card.json"] = some text
        ∧ (runIn cardDirectory overwriteArgs).2.text? ["names.json"] = some "[\"title\"]")
      ∧ ((runIn cardDirectory lostArgs).1.stdout = ""
        ∧ (runIn cardDirectory lostArgs).2 = cardDirectory)
      ∧ runIn cardDirectory helpArgs = ({ stdout := Page.derive.text }, cardDirectory) := by
  have hdone : (runIn cardDirectory overwriteArgs).1.code = 0 := by decide +kernel
  have hfailed : (runIn cardDirectory lostArgs).1.code ≠ 0 := by decide +kernel
  have hplace : cardDirectory.place? "./card.json" = some ["card.json"] := by decide +kernel
  have hnames : cardDirectory.text? ["names.json"] = some "[\"title\"]" := by decide +kernel
  obtain ⟨-, -, -, hwritten⟩ := run_effects Directory.fileSystem Page.text overwriteArgs
    cardDirectory (runIn cardDirectory overwriteArgs).2 (runIn cardDirectory overwriteArgs).1
    (Prod.eta _).symm
  obtain ⟨-, model, -, hwrote, -, hprinted⟩ :=
    hwritten "card.json" (some "names.json") "./card.json" (by decide +kernel) hdone
  have hprint := hprinted ["derive", "--in=card.json", "--cached-names", "names.json"]
    (by decide +kernel)
  have hother : cardDirectory.place? "./card.json" ≠ some ["names.json"] := by
    rw [hplace]
    decide
  have hlost := (run_effects Directory.fileSystem Page.text lostArgs cardDirectory
    (runIn cardDirectory lostArgs).2 (runIn cardDirectory lostArgs).1 (Prod.eta _).symm).1 hfailed
  obtain ⟨hpage, hkept⟩ := (run_effects Directory.fileSystem Page.text helpArgs cardDirectory
    (runIn cardDirectory helpArgs).2 (runIn cardDirectory helpArgs).1 (Prod.eta _).symm).2.1
    .derive (by decide +kernel)
  refine ⟨⟨_, hprint, Directory.text?_of_wrote hwrote hplace,
    (Directory.text?_eq_of_wrote hwrote hother).trans hnames⟩, hlost, ?_⟩
  exact Prod.ext hpage hkept

end CommandLine

end ComponentSpec
