import ComponentSpec.Files.Basic

set_option autoImplicit false

/-! # Files in memory

A directory holds files. The Unix system around it is known only by what every such system has: the
folders that the directory lies in, the root, `/tmp`, and `/dev` with the device `/dev/null`, which
is empty and drops what is written to it. Outside the directory a file can be made, but it is not
seen.

Main statement: `text?_put`, a write changes the text of its file and of no other. -/

namespace ComponentSpec

/-- Files by the parts of their paths from one directory down. -/
structure Directory where
  files : List (List String × String) := []

namespace Directory

/-- The parts of a path; what stands between two slashes in a row is no part. -/
def parts (path : String) : List String :=
  (path.splitToList (· = '/')).filter (· ≠ "")

/-- The directory of files that are given by their paths. -/
def ofTexts (files : List (String × String)) : Directory :=
  ⟨files.map fun f => (parts f.1, f.2)⟩

/-- The text of a file. -/
def text? (d : Directory) (name : List String) : Option String :=
  d.files.lookup name

/-- Whether some file lies below the name. -/
def isFolder (d : Directory) (name : List String) : Bool :=
  d.files.any fun f => name.isPrefixOf f.1 && name ≠ f.1

/-! ## Writing a file -/

/-- The files after one has got a text. -/
def putIn (name : List String) (text : String) :
    List (List String × String) → List (List String × String)
  | [] => [(name, text)]
  | f :: rest => if f.1 = name then (name, text) :: rest else f :: putIn name text rest

/-- The directory after a file has got a text. -/
def put (d : Directory) (name : List String) (text : String) : Directory :=
  ⟨putIn name text d.files⟩

theorem lookup_putIn (name : List String) (text : String) (other : List String)
    (files : List (List String × String)) :
    (putIn name text files).lookup other =
      if other = name then some text else files.lookup other := by
  induction files with
  | nil =>
    by_cases h : other = name
    · simp [putIn, h]
    · have hne : (other == name) = false := by simpa using h
      simp [putIn, List.lookup_cons, h, hne]
  | cons f rest ih =>
    obtain ⟨n, t⟩ := f
    by_cases hn : n = name
    · subst hn
      by_cases h : other = n
      · simp [putIn, h]
      · have hne : (other == n) = false := by simpa using h
        simp [putIn, List.lookup_cons, h, hne]
    · by_cases h : other = n
      · have hname : other ≠ name := h ▸ hn
        simp [putIn, hn, h]
      · have hne : (other == n) = false := by simpa using h
        simp [putIn, List.lookup_cons, hn, hne, ih]

/-- A write changes the text of its file and of no other. -/
theorem text?_put (d : Directory) (name : List String) (text : String) (other : List String) :
    (d.put name text).text? other = if other = name then some text else d.text? other :=
  lookup_putIn name text other d.files

/-! ## Paths -/

/-- A folder that a path can lead to. -/
inductive Folder where
  /-- A folder of the directory, by its parts from there. -/
  | within (name : List String)
  /-- A folder that the directory lies in, near or far. -/
  | above
  /-- A folder of the system, by its parts from the root. -/
  | system (name : List String)

/-- The folder that holds a folder; the root holds itself. -/
def Folder.parent : Folder → Folder
  | within [] => above
  | within name => within name.dropLast
  | above => above
  | system name => system name.dropLast

/-- The folders that every system has. -/
def systemFolders : List (List String) :=
  [[], ["dev"], ["tmp"]]

/-- The device that is empty and drops what is written to it. -/
def nullDevice : List String :=
  ["dev", "null"]

/-- What one part of a path names in a folder. -/
inductive Entry where
  | file (text : String)
  | folder (f : Folder)
  | null
  | nothing

/-- What a part names in a folder. -/
def entry (d : Directory) (folder : Folder) (part : String) : Except PathFault Entry :=
  if part = "." then .ok (.folder folder)
  else if part = ".." then .ok (.folder folder.parent)
  else if 255 < part.utf8ByteSize then .error .nameTooLong
  else
    match folder with
    | .within name =>
      match d.text? (name ++ [part]) with
      | some text => .ok (.file text)
      | none =>
        if d.isFolder (name ++ [part]) then .ok (.folder (.within (name ++ [part])))
        else .ok .nothing
    | .above => .ok .nothing
    | .system name =>
      if name ++ [part] = nullDevice then .ok .null
      else if name ++ [part] ∈ systemFolders then .ok (.folder (.system (name ++ [part])))
      else .ok .nothing

/-- The folder at the end of a way from a folder. -/
def walk (d : Directory) : Folder → List String → Except PathFault Folder
  | folder, [] => .ok folder
  | folder, part :: rest => do
    match ← d.entry folder part with
    | .folder next => d.walk next rest
    | .nothing => .error .notFound
    | _ => .error .notDirectory

/-- Where a path leads: its last part in the folder of the parts before it. -/
structure Target where
  folder : Folder
  last : String
  /-- A slash at the end asks for a folder. -/
  slash : Bool

/-- Where a path leads from the directory. -/
def target (d : Directory) (path : String) : Except PathFault Target :=
  let cs := path.toList
  if cs.any (·.toNat = 0) then .error .nulInPath
  else if 4096 ≤ path.utf8ByteSize then .error .nameTooLong
  else if cs.isEmpty then .error .notFound
  else do
    let start := if cs.head? = some '/' then .system [] else .within []
    let folder ← d.walk start (parts path).dropLast
    .ok ⟨folder, (parts path).getLastD ".", cs.getLast? = some '/'⟩

/-! ## Reading and writing by path -/

/-- The text of the file that a path leads to. -/
def read (d : Directory) (path : String) : Except PathFault String := do
  let t ← d.target path
  match ← d.entry t.folder t.last with
  | .file text => if t.slash then .error .notDirectory else .ok text
  | .null => if t.slash then .error .notDirectory else .ok ""
  | .folder _ => .error .isDirectory
  | .nothing => .error .notFound

/-- The directory after a text was written to the file that a path leads to, which is made if it is
not there. -/
def write (d : Directory) (path text : String) : Except PathFault Directory := do
  let t ← d.target path
  if t.slash then .error .isDirectory
  else
    match ← d.entry t.folder t.last with
    | .folder _ => .error .isDirectory
    | .null => .ok d
    | _ =>
      match t.folder with
      | .within name => .ok (d.put (name ++ [t.last]) text)
      | _ => .ok d

/-- The files of a directory as the state of a computation. -/
def inMemory : Files (StateM Directory) where
  read path := do
    match (← get).read path with
    | .ok text => return .ok (text.toList.flatMap String.utf8EncodeChar)
    | .error f => return .error f
  write path text := do
    match (← get).write path text with
    | .ok d => do
      set d
      return .ok ()
    | .error f => return .error f

end Directory
end ComponentSpec
