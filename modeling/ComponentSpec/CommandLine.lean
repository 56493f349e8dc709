import ComponentSpec.Document.Load
import ComponentSpec.Files.Directory
import ComponentSpec.Fingerprint
import ComponentSpec.Model.Codec

set_option autoImplicit false

/-! # The command line

Three commands read a document: `derive` writes its model, `names` the names to keep for the next
build, `fingerprint` the fingerprint. A command either succeeds or reports one error; a failure
prints and writes nothing else. Asked for help or for its version the program prints a page and runs
no command. -/

namespace ComponentSpec.CommandLine

/-! ## Arguments -/

/-- A command with what it works on. -/
inductive Command where
  | derive (input : String) (cachedNames out : Option String)
  | names (input : String)
  | fingerprint (input : String)
  deriving DecidableEq

/-- What the program says about itself. -/
inductive Page where
  /-- All commands. -/
  | program
  | derive
  | names
  | fingerprint
  /-- How to ask for help. -/
  | help
  | version
  deriving DecidableEq

/-- What the program is asked for. -/
inductive Request where
  | run (command : Command)
  | page (page : Page)
  deriving DecidableEq

/-- What the arguments behind the name of a command come to. -/
inductive Given where
  /-- Options with their values, in order. -/
  | options (given : List (String × String))
  | help
  deriving DecidableEq

/-- An argument that names an option, with the value behind its equals sign. -/
def option? (arg : String) : Option (String × Option String) :=
  match arg.toList with
  | '-' :: '-' :: cs =>
    let name := String.ofList (cs.takeWhile (· ≠ '='))
    match cs.dropWhile (· ≠ '=') with
    | _ :: held => some (name, some (String.ofList held))
    | [] => some (name, none)
  | _ => none

/-- Whether an argument can be the value of the option before it. -/
def isValue (arg : String) : Bool :=
  match arg.toList with
  | [] => false
  | ['-'] => true
  | '-' :: _ => false
  | _ => true

/-- Whether an argument asks for a page, by its long name or by a short one that comes first. -/
def asksFor (long : String) (short : Char) (arg : String) : Bool :=
  arg = "--" ++ long || arg.toList.take 2 = ['-', short]

/-- What the arguments come to, read from the front behind some options. Each option is given once
at most, and a lone `--` may end them. Help is given as soon as it is asked for, and what stands
behind the request is not looked at. -/
def given? (known : List String) (given : List (String × String)) : List String → Option Given
  | [] => some (.options given)
  | arg :: rest =>
    if arg = "--" then if rest.isEmpty then some (.options given) else none
    else if asksFor "help" 'h' arg then some .help
    else
      match option? arg with
      | none => none
      | some (name, held) =>
        if name ∉ known ∨ name ∈ given.map Prod.fst then none
        else
          match held with
          | some v => if v.isEmpty then none else given? known (given ++ [(name, v)]) rest
          | none =>
            match rest with
            | v :: rest => if isValue v then given? known (given ++ [(name, v)]) rest else none
            | [] => none

/-- The request for a command that knows some options, or for the page about it. The command is
made from the values of its options. -/
def requestFor? (known : List String) (page : Page)
    (make : (String → Option String) → Option Command) (args : List String) : Option Request := do
  match ← given? known [] args with
  | .options given => return .run (← make fun name => given.lookup name)
  | .help => return .page page

/-- The page that is asked for by name. -/
def page? : List String → Option Page
  | [] => some .program
  | ["derive"] => some .derive
  | ["names"] => some .names
  | ["fingerprint"] => some .fingerprint
  | ["help"] => some .help
  | _ => none

/-- What the arguments ask for, if the program can do it. -/
def Request.ofArgs? : List String → Option Request
  | [] => none
  | "derive" :: args =>
    requestFor? ["in", "cached-names", "out"] .derive
      (fun value => do return .derive (← value "in") (value "cached-names") (value "out")) args
  | "names" :: args => requestFor? ["in"] .names (fun value => do return .names (← value "in")) args
  | "fingerprint" :: args =>
    requestFor? ["in"] .fingerprint (fun value => do return .fingerprint (← value "in")) args
  | "help" :: names => do return .page (← page? names)
  | arg :: _ =>
    if asksFor "help" 'h' arg then some (.page .program)
    else if asksFor "version" 'V' arg then some (.page .version)
    else none

/-! ## Pages

A run prints whatever text it is given for a page. These are the texts of the program. -/

/-- The lines of a page. -/
def Page.lines : Page → List String
  | .program => [
      "Usage: specmodel <COMMAND>",
      "",
      "Commands:",
      "  derive       Derive the spec model and print it as JSON",
      "  names        Print the prop names to persist for the next build",
      "  fingerprint  Print a stable fingerprint of the derived model",
      "  help         Print this message or the help of the given subcommand(s)",
      "",
      "Options:",
      "  -h, --help     Print help",
      "  -V, --version  Print version"]
  | .derive => [
      "Derive the spec model and print it as JSON",
      "",
      "Usage: specmodel derive [OPTIONS] --in <IN_PATH>",
      "",
      "Options:",
      "      --in <IN_PATH>",
      "          Input spec document JSON",
      "      --cached-names <CACHED_NAMES>",
      "          JSON array of names from a previous build; overrides the document's own list",
      "      --out <OUT>",
      "          Output path; stdout when omitted",
      "  -h, --help",
      "          Print help"]
  | .names => [
      "Print the prop names to persist for the next build",
      "",
      "Usage: specmodel names --in <IN_PATH>",
      "",
      "Options:",
      "      --in <IN_PATH>  Input spec document JSON",
      "  -h, --help          Print help"]
  | .fingerprint => [
      "Print a stable fingerprint of the derived model",
      "",
      "Usage: specmodel fingerprint --in <IN_PATH>",
      "",
      "Options:",
      "      --in <IN_PATH>  Input spec document JSON",
      "  -h, --help          Print help"]
  | .help => [
      "Print this message or the help of the given subcommand(s)",
      "",
      "Usage: specmodel help [COMMAND]...",
      "",
      "Arguments:",
      "  [COMMAND]...  Print help for the subcommand(s)"]
  | .version => ["specmodel 0.1.0"]

def Page.text (p : Page) : String :=
  String.join (p.lines.map fun line => line ++ "\n")

/-! ## Outcomes -/

/-- An error as the command line reports it. -/
structure Report where
  message : String
  cause : Option String := none
  deriving DecidableEq

/-- What is seen of a run, the files apart. -/
structure Outcome where
  code : UInt32 := 0
  stdout : String := ""
  stderr : List String := []
  deriving DecidableEq

/-- The lines of a report: the message, and a cause set apart and indented. -/
def Report.lines (r : Report) : List String :=
  let message := ("Error: " ++ r.message).splitToList (· = '\n')
  match r.cause with
  | none => message
  | some cause =>
    message ++ ["", "Caused by:"] ++ (cause.splitToList (· = '\n')).map fun line => "    " ++ line

/-- The outcome of a command that failed. -/
def Outcome.failed (r : Report) : Outcome :=
  { code := 1, stderr := r.lines }

/-- The outcome of arguments that ask for nothing the program can do. What is said about their use
is left out. -/
def Outcome.misused : Outcome :=
  { code := 2 }

/-! ## Running -/

section
variable {m : Type → Type} [Monad m]

/-- The cached names in a file. -/
def loadCache (files : Files m) (path : String) : ExceptT Report m NameCache := do
  match ← files.read path with
  | .ok bytes =>
    match NameCache.codec.ofBytes bytes with
    | .ok cache => return cache
    | .error f => throw ⟨"parse cached names JSON", some f.message⟩
  | .error .isDirectory => throw ⟨"parse cached names JSON", some (PathFault.message .isDirectory)⟩
  | .error f => throw ⟨s!"open cached names {quotedPath path}", some f.message⟩

/-- The model of the document in a file, built with the given names or else the document's own. -/
def loadModel (files : Files m) (path : String) (cache : Option NameCache) :
    ExceptT Report m Model := do
  match ← (Document.load files path : m (Except Error Document)) with
  | .error e => throw { message := e.message }
  | .ok document =>
    match { document with cache := cache.getD document.cache }.build with
    | .ok model => return model
    | .error flaw =>
      throw ⟨s!"derive spec model from {quotedPath path}", some flaw.toError.message⟩

/-- Runs a command and gives what it prints. -/
def Command.run (files : Files m) : Command → ExceptT Report m String
  | derive input cachedNames out => do
    let cache ←
      match cachedNames with
      | some path => do pure (some (← loadCache files path))
      | none => pure none
    let model ← loadModel files input cache
    let text := Model.codec.toLines model
    match out with
    | none => return text ++ "\n"
    | some path =>
      match ← files.write path text with
      | .ok () => return ""
      | .error f => throw ⟨s!"create output {quotedPath path}", some f.message⟩
  | names input => do
    let model ← loadModel files input none
    return NameCache.codec.toText model.nameCache ++ "\n"
  | fingerprint input => do
    let model ← loadModel files input none
    return model.fingerprint.text ++ "\n"

/-- Runs the program on its arguments, with the text that is printed for a page. -/
def run (text : Page → String) (files : Files m) (args : List String) : m Outcome :=
  match Request.ofArgs? args with
  | none => pure .misused
  | some (.page page) => pure { stdout := text page }
  | some (.run command) => do
    match ← (command.run files).run with
    | .ok stdout => return { stdout := stdout }
    | .error r => return .failed r

end

/-- What a run leaves behind that starts with the given files. -/
def runIn (d : Directory) (args : List String) : Outcome × Directory :=
  (run Page.text Directory.inMemory args).run d

end ComponentSpec.CommandLine
