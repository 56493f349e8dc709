import ComponentSpec.CommandLine
import ComponentSpec.Proofs.Surface

set_option autoImplicit false

/-! # Documents from text, bytes and files

A document comes as a text or as bytes, and bytes come from memory or from a file. One reader takes
them all, as symbols, and the bytes of a text have the symbols of the text, so it makes no
difference where the text was kept: neither to the document nor to the first fault of a text that
holds none. `Document.load_eq_ofText` says so of the readers, of files in any monad and of the
command line, which does to the document of a file what is done to a document at hand
(`CommandLine.run_loadModel`). -/

namespace ComponentSpec

/-! ## The bytes of a text -/

theorem toList_data_toUTF8 (s : String) :
    s.toUTF8.data.toList = s.toList.flatMap String.utf8EncodeChar := by
  have h : (s.toList.flatMap String.utf8EncodeChar).toByteArray = s.toUTF8 :=
    Surface.toByteArray_flatMap_utf8EncodeChar s
  rw [← h]
  simp

theorem Json.Symbol.ofBytes_toUTF8 (s : String) : ofBytes s.toUTF8.data.toList = ofText s := by
  rw [toList_data_toUTF8, ofBytes_utf8Encode]
  rfl

/-- The reader of a codec does not see whether the symbols were a text or bytes. -/
theorem Codec.ofBytes_toUTF8 {α : Type} (c : Codec α) (s : String) :
    c.ofBytes s.toUTF8.data.toList = c.ofText s := by
  rw [ofBytes, ofText, Json.Symbol.ofBytes_toUTF8]

theorem Document.ofBytes_toUTF8 (s : String) : ofBytes s.toUTF8.data.toList = ofText s := by
  rw [ofBytes, ofText, Codec.ofBytes_toUTF8]

/-! ## Files -/

section

variable {m : Type → Type} [Monad m] [LawfulMonad m] {files : Files m} {path s : String}

/-- The file may be found in any way `x`, as long as it holds the text. -/
theorem Document.load_of_read {x : m Unit}
    (h : files.read path = (do x; pure (.ok s.toUTF8.data.toList))) :
    load files path = (do x; pure (ofText s)) := by
  rw [load, h, bind_assoc]
  simp only [pure_bind, ofBytes_toUTF8]

end

/-- A file in memory is read as the bytes of its text, and reading changes nothing. -/
theorem Directory.run_read_inMemory {d : Directory} {path s : String} (h : d.read path = .ok s) :
    (inMemory.read path).run d = (.ok s.toUTF8.data.toList, d) := by
  rw [toList_data_toUTF8]
  simp only [inMemory, StateT.run_bind, StateT.run_get, pure_bind, h]
  rfl

theorem Document.run_load_inMemory {d : Directory} {path s : String} (h : d.read path = .ok s) :
    (load Directory.inMemory path).run d = (ofText s, d) := by
  rw [load, StateT.run_bind, Directory.run_read_inMemory h, ← ofBytes_toUTF8]
  rfl

/-! ## The command line -/

namespace CommandLine

/-- What the command line reports of the model of a document that it has from a path. -/
def built (path : String) (cache : Option NameCache) : Except Error Document → Except Report Model
  | .error e => .error { message := e.message }
  | .ok document =>
    match { document with cache := cache.getD document.cache }.build with
    | .ok model => .ok model
    | .error flaw =>
      .error ⟨s!"derive spec model from {quotedPath path}", some flaw.toError.message⟩

/-- The command line builds what it has loaded. -/
theorem run_loadModel {m : Type → Type} [Monad m] [LawfulMonad m] (files : Files m)
    (path : String) (cache : Option NameCache) :
    (loadModel files path cache).run = built path cache <$> Document.load files path := by
  refine (ExceptT.run_bind_lift _ _).trans ?_
  rw [map_eq_pure_bind]
  refine bind_congr fun loaded => ?_
  cases loaded with
  | error e => rfl
  | ok document =>
      simp only [built]
      cases { document with cache := cache.getD document.cache }.build with
      | error flaw => rfl
      | ok model => rfl

end CommandLine

/-- **Texts and bytes are read alike.** The bytes of a text give the document that the text gives,
or the same error, and so does a file that holds these bytes, however files are found; in memory it
stays as it is. The command line builds what a file holds as it would be built from the text. -/
theorem Document.load_eq_ofText :
    (∀ s : String, ofBytes s.toUTF8.data.toList = ofText s)
      ∧ (∀ (m : Type → Type) [Monad m] [LawfulMonad m] (files : Files m) (path s : String)
            (x : m Unit), files.read path = (do x; pure (.ok s.toUTF8.data.toList)) →
          load files path = (do x; pure (ofText s))
            ∧ ∀ cache, (CommandLine.loadModel files path cache).run
              = (do x; pure (CommandLine.built path cache (ofText s))))
      ∧ ∀ (d : Directory) (path s : String), d.read path = .ok s →
          (load Directory.inMemory path).run d = (ofText s, d)
            ∧ ∀ cache, (CommandLine.loadModel Directory.inMemory path cache).run.run d
              = (CommandLine.built path cache (ofText s), d) := by
  refine ⟨ofBytes_toUTF8, fun m _ _ files path s x h => ?_, fun d path s h => ?_⟩
  · refine ⟨load_of_read h, fun cache => ?_⟩
    rw [CommandLine.run_loadModel, load_of_read h, map_bind]
    simp only [map_pure]
  · refine ⟨run_load_inMemory h, fun cache => ?_⟩
    rw [CommandLine.run_loadModel, StateT.run_map, run_load_inMemory h]
    rfl

/-! ## A text that ends too early -/

/-- Outcomes can be compared. -/
instance decidableEqExcept {ε α : Type} [DecidableEq ε] [DecidableEq α] :
    DecidableEq (Except ε α)
  | .ok a, .ok b => decidable_of_iff (a = b) ⟨congrArg Except.ok, Except.ok.inj⟩
  | .error e, .error f => decidable_of_iff (e = f) ⟨congrArg Except.error, Except.error.inj⟩
  | .ok _, .error _ => isFalse nofun
  | .error _, .ok _ => isFalse nofun

/-- A text with an escape and with a character of two bytes that stops inside a string. -/
def brokenText : String :=
  "\x7b\"qualified_name\": \"com.example.Caf\\u00e9Spec\", \"class_javadoc\": \"crème"

/-- A directory with one document. -/
def specsDirectory (s : String) : Directory :=
  .ofTexts [("specs/cafe.json", s)]

/-- Files that all hold one text and count how often they are read. -/
def countedFiles (s : String) : Files (StateM Nat) where
  read _ := do
    modify (· + 1)
    pure (.ok s.toUTF8.data.toList)
  write _ _ := pure (.ok ())

/-- The fault is the same from the text, from its bytes and from files. -/
theorem Document.load_brokenText :
    ofText brokenText = .error (unreadable (.endOfInput .string))
      ∧ ofBytes brokenText.toUTF8.data.toList = .error (unreadable (.endOfInput .string))
      ∧ (load (countedFiles brokenText) "cafe.json").run 0
        = (.error (unreadable (.endOfInput .string)), 1)
      ∧ (load Directory.inMemory "specs/cafe.json").run (specsDirectory brokenText)
        = (.error (unreadable (.endOfInput .string)), specsDirectory brokenText)
      ∧ (CommandLine.loadModel Directory.inMemory "specs/cafe.json" none).run.run
          (specsDirectory brokenText)
        = (.error { message :=
            "serialization error: parse spec document JSON: EOF while parsing a string" },
          specsDirectory brokenText) := by
  have hcodec : codec.ofText brokenText = .error (.endOfInput .string) := by decide +kernel
  have htext : ofText brokenText = .error (unreadable (.endOfInput .string)) := by
    rw [ofText, hcodec]
    rfl
  have hread : (specsDirectory brokenText).read "specs/cafe.json" = .ok brokenText := by
    decide +kernel
  refine ⟨htext, ?_, ?_, ?_, ?_⟩
  · rw [load_eq_ofText.1, htext]
  · rw [(load_eq_ofText.2.1 _ (countedFiles brokenText) "cafe.json" brokenText _ rfl).1, htext]
    rfl
  · rw [(load_eq_ofText.2.2 _ _ _ hread).1, htext]
  · rw [(load_eq_ofText.2.2 _ _ _ hread).2, htext]
    rfl

end ComponentSpec
