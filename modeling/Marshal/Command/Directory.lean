import Marshal.Command.Path
import Marshal.Text.Literal

/-!
# Directories

The files that a run starts from and leaves behind, by their places. A folder is there if it was
made or if a file lies below it, and the working directory has folders around it of which nothing
more is known.
-/

namespace Marshal
set_option autoImplicit false

/-- Why a file or a folder cannot be used. -/
inductive FileCause where
  | missing
  | exists
  | notFolder
  | isFolder
  | tooLong
  /-- A path holds the character that ends it. -/
  | zero
deriving DecidableEq, Repr, Inhabited

/-- A failure to use the file or the folder of a path. -/
structure FileError where
  cause : FileCause
  path : String
deriving DecidableEq, Repr, Inhabited

def FileError.message (e : FileError) : String :=
  match e.cause with
  | .missing => "[Errno 2] No such file or directory: " ++ Text.literal e.path
  | .exists => "[Errno 17] File exists: " ++ Text.literal e.path
  | .notFolder => "[Errno 20] Not a directory: " ++ Text.literal e.path
  | .isFolder => "[Errno 21] Is a directory: " ++ Text.literal e.path
  | .tooLong => "[Errno 36] File name too long: " ++ Text.literal e.path
  | .zero => "embedded null byte"

/-- Where names are looked up. -/
inductive Base where
  /-- The root of all folders. -/
  | root
  /-- The folder so many levels above the working directory. -/
  | above (levels : Nat)
deriving DecidableEq, Repr, Inhabited

/-- A place: names, each in the folder of the one before. -/
structure Place where
  base : Base
  names : List String
deriving DecidableEq, Repr, Inhabited

namespace Place

def working : Place := ⟨.above 0, []⟩

/-- The folder that a place is in; the root is in itself. -/
def parent (p : Place) : Place :=
  match p.names, p.base with
  | [], .root => p
  | [], .above n => ⟨.above (n + 1), []⟩
  | names, base => ⟨base, names.dropLast⟩

/-- Whether a place lies below another one. -/
def isBelow (p folder : Place) : Bool :=
  p.base == folder.base && folder.names.isPrefixOf p.names && p.names != folder.names

end Place

structure Directory where
  files : List (Place × List Nat)
  folders : List Place
deriving DecidableEq, Repr, Inhabited

namespace Directory

def ofFiles (files : List (String × List Nat)) : Directory :=
  ⟨files.map fun f => (⟨.above 0, (Path.ofText f.1).names⟩, f.2), []⟩

/-- The folders below the root that every system has. -/
def systemFolders : List String :=
  ["bin", "dev", "etc", "home", "lib", "opt", "proc", "root", "sbin", "sys", "tmp", "usr", "var"]

/-- The file that is always empty, whatever is written to it. -/
def sink : Place := ⟨.root, ["dev", "null"]⟩

def file? (d : Directory) (place : Place) : Option (List Nat) :=
  if place = sink then some [] else (d.files.find? (·.1 == place)).map (·.2)

def hasFolder (d : Directory) (place : Place) : Bool :=
  place.names.isEmpty || d.folders.contains place || d.files.any (fun f => f.1.isBelow place) ||
    systemFolders.any fun name => place == ⟨.root, [name]⟩

/-- The number of bytes that a name may have. -/
def nameLimit : Nat := 255

/-- The number of bytes that a path may not reach. -/
def pathLimit : Nat := 4096

def step (folder : Place) (name : String) : Except FileCause Place :=
  if name = "." then .ok folder
  else if name = ".." then .ok folder.parent
  else if nameLimit < name.utf8ByteSize then .error .tooLong
  else .ok { folder with names := folder.names ++ [name] }

def walk (d : Directory) (folder : Place) : List String → Except FileCause Place
  | [] => .ok folder
  | name :: rest => do
    let next ← step folder name
    if d.hasFolder next then d.walk next rest
    else if (d.file? next).isSome then throw .notFolder
    else throw .missing

/-- Where a path ends: in a folder that is known by the way to it, or with a name in a folder. -/
inductive Ending where
  | folder (place : Place)
  | named (folder : Place) (name : String)
deriving DecidableEq, Repr, Inhabited

def ending (d : Directory) (path : String) : Except FileCause Ending := do
  if path.toList.contains '\x00' then throw .zero
  if path.isEmpty then throw .missing
  if pathLimit ≤ path.utf8ByteSize then throw .tooLong
  let start : Place := if path.startsWith "/" then ⟨.root, []⟩ else Place.working
  match (Path.steps path).reverse with
  | [] => return .folder start
  | last :: before =>
    let folder ← d.walk start before.reverse
    if last = "." ∨ last = ".." then return .folder (← step folder last)
    else return .named folder last

def locate (d : Directory) (path : String) : Except FileCause Place := do
  match ← d.ending path with
  | .folder place => return place
  | .named folder name => step folder name

/-- An operation on a path, whose failures are those of the path. -/
def onPath {α : Type} (path : String) (x : Except FileCause α) : Except FileError α :=
  x.mapError fun cause => ⟨cause, path⟩

def read (d : Directory) (path : String) : Except FileError (List Nat) :=
  onPath path do
    let place ← d.locate path
    match d.file? place with
    | some content => return content
    | none => throw (if d.hasFolder place then .isFolder else .missing)

/-- The directory after a file was made or its content replaced. -/
def put (d : Directory) (place : Place) (content : List Nat) : Directory :=
  if place = sink then d
  else { d with files := (d.files.filter (·.1 != place)) ++ [(place, content)] }

/-- The directory after a file was written; a path with a slash at its end names no file. -/
def write (d : Directory) (path : String) (content : List Nat) : Except FileError Directory :=
  onPath path do
    match ← d.ending path with
    | .folder _ => throw .isFolder
    | .named folder name =>
      if path.endsWith "/" then throw .isFolder
      let place ← step folder name
      if d.hasFolder place then throw .isFolder
      return d.put place content

/-- The directory after a folder was made in one that is there. -/
def add (d : Directory) (path : String) : Except FileCause Directory := do
  match ← d.ending path with
  | .folder _ => throw .exists
  | .named folder name =>
    let place ← step folder name
    if d.hasFolder place || (d.file? place).isSome then throw .exists
    return { d with folders := d.folders ++ [place] }

/-- The directory if a folder is at a path; else the given failure. -/
def unlessFolder (d : Directory) (path : String) (cause : FileCause) : Except FileError Directory :=
  match d.locate path with
  | .ok place => if d.hasFolder place then .ok d else .error ⟨cause, path⟩
  | .error _ => .error ⟨cause, path⟩

/-- The directory after a folder was made, with those above it as far as they are missing; `levels`
bounds their number. -/
def makeFolders (d : Directory) : Nat → Path → Except FileError Directory
  | levels, path =>
    match d.add path.text with
    | .ok d' => .ok d'
    | .error .missing =>
      match levels with
      | 0 => .error ⟨.missing, path.text⟩
      | levels + 1 => do
        let d' ← d.makeFolders levels path.parent
        match d'.add path.text with
        | .ok d'' => return d''
        | .error .missing => throw ⟨.missing, path.text⟩
        | .error cause => d'.unlessFolder path.text cause
    | .error cause => d.unlessFolder path.text cause

/-- The directory after a folder was made, with those above it; it may be there already. -/
def makeFolder (d : Directory) (path : Path) : Except FileError Directory :=
  d.makeFolders path.names.length path

/-- The files of the working directory that another one does not have with the same content. -/
def changes (before after : Directory) : List (List String × List Nat) :=
  (after.files.filter fun f => f.1.base == .above 0 && before.file? f.1 != some f.2).map fun f =>
    (f.1.names, f.2)

end Directory

end Marshal
