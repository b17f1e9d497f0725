import Superstep.Text.Search

/-!
# Directories

A directory as a value: what reading a path gives, and where a path would be written. Paths are walked
one name after another, so a path through a folder that is not there leads nowhere, even if it turns
back.
-/

namespace Superstep

inductive FileError where
  | notFound | denied | notDirectory | isDirectory | noSpace | nameTooLong
  deriving DecidableEq, Repr

def FileError.message : FileError → String
  | .notFound => "No such file or directory (os error 2)"
  | .denied => "Permission denied (os error 13)"
  | .notDirectory => "Not a directory (os error 20)"
  | .isDirectory => "Is a directory (os error 21)"
  | .noSpace => "No space left on device (os error 28)"
  | .nameTooLong => "File name too long (os error 36)"

inductive Device where
  /-- It is always empty, and keeps nothing. -/
  | null
  /-- It has no room. -/
  | full
  | stdin | stdout | stderr
  deriving DecidableEq, Repr

/-- The devices, each by the names on the way from the root. -/
def Device.paths : List (List String × Device) :=
  [(["dev", "null"], .null), (["dev", "full"], .full), (["dev", "stdin"], .stdin),
   (["dev", "stdout"], .stdout), (["dev", "stderr"], .stderr)]

/-- A directory that a program runs in, and what is around it. Files and folders are given by the names
on the way from the root. -/
structure Directory where
  /-- The way to the directory itself. Its own name is not known, so it is one that no path spells. -/
  home : List String := ["tmp", ""]
  files : List (List String × String) := []
  folders : List (List String) :=
    ["bin", "dev", "etc", "home", "lib", "proc", "root", "sbin", "sys", "usr", "var"].map ([·])
  deriving DecidableEq, Repr

namespace Directory

inductive Entry where
  | folder (path : List String)
  | file (path : List String) (text : String)
  | device (device : Device)
  /-- A name that is free. -/
  | vacant (path : List String)
  deriving DecidableEq, Repr

inductive Target where
  /-- To a file in the directory, by the names on the way from there. -/
  | inside (path : List String)
  /-- To where nobody looks. -/
  | elsewhere
  | stdout | stderr
  deriving DecidableEq, Repr

def names (path : String) : List String :=
  ((Text.pieces '/' path.toList).filter (!·.isEmpty)).map String.ofList

/-- The directory that holds exactly the given files. -/
def ofFiles (files : List (String × String)) : Directory :=
  let empty : Directory := {}
  { empty with files := files.map fun (path, text) => (empty.home ++ names path, text) }

def isRooted (path : String) : Bool := path.toList.head? = some '/'

/-- Whether a path ends in a slash, so that only a folder can be meant. -/
def endsInSlash (path : String) : Bool := path.toList.getLast? = some '/'

def isFolder (directory : Directory) (path : List String) : Bool :=
  let leadsThrough (other : List String) : Bool := path.isPrefixOf other && path.length < other.length
  path.isPrefixOf directory.home
    || directory.folders.any (fun folder => folder = path || leadsThrough folder)
    || directory.files.any fun (file, _) => leadsThrough file

def maxName : Nat := 255

def maxPath : Nat := 4095

/-- What a name in a folder leads to. The root lies in itself. -/
def look (directory : Directory) (folder : List String) (name : String) : Except FileError Entry :=
  if name = "." then .ok (.folder folder)
  else if name = ".." then .ok (.folder folder.dropLast)
  else if maxName < name.utf8ByteSize then .error .nameTooLong
  else
    let inner := folder ++ [name]
    if directory.isFolder inner then .ok (.folder inner)
    else
      match Device.paths.lookup inner, directory.files.lookup inner with
      | some device, _ => .ok (.device device)
      | none, some text => .ok (.file inner text)
      | none, none => .ok (.vacant inner)

/-- What names lead to, one after another. All but the last have to be folders. -/
def walk (directory : Directory) : (folder : List String) → List String → Except FileError Entry
  | folder, [] => .ok (.folder folder)
  | folder, [name] => directory.look folder name
  | folder, name :: names => do
    match ← directory.look folder name with
    | .folder inner => directory.walk inner names
    | .file _ _ | .device _ => .error .notDirectory
    | .vacant _ => .error .notFound

def start (directory : Directory) (path : String) : List String :=
  if isRooted path then [] else directory.home

def find (directory : Directory) (path : String) : Except FileError Entry :=
  if path.isEmpty then .error .notFound
  else if maxPath < path.utf8ByteSize then .error .nameTooLong
  else directory.walk (directory.start path) (names path)

/-- The text of a file. Nothing comes in on the devices. -/
def read (directory : Directory) (path : String) : Except FileError String := do
  match ← directory.find path with
  | .folder _ => .error .isDirectory
  | .file _ text => if endsInSlash path then .error .notDirectory else .ok text
  | .device _ => if endsInSlash path then .error .notDirectory else .ok ""
  | .vacant _ => .error .notFound

def write (directory : Directory) (path : String) : Except FileError Target := do
  match ← directory.find path with
  | .folder _ => .error .isDirectory
  | .file inner _ | .vacant inner =>
    if endsInSlash path then .error .isDirectory
    else if directory.home.isPrefixOf inner then .ok (.inside (inner.drop directory.home.length))
    else .ok .elsewhere
  | .device device =>
    if endsInSlash path then .error .isDirectory
    else
      match device with
      | .stdout => .ok .stdout
      | .stderr => .ok .stderr
      | .full => .error .noSpace
      | .null | .stdin => .ok .elsewhere

/-- The directory with the folders on the way that are not there, as far as they can be made. -/
def addFoldersFrom (directory : Directory) : (folder : List String) → List String → Directory
  | _, [] => directory
  | folder, name :: names =>
    match directory.look folder name with
    | .ok (.folder inner) => directory.addFoldersFrom inner names
    | .ok (.vacant inner) =>
      { directory with folders := inner :: directory.folders }.addFoldersFrom inner names
    | _ => directory

/-- The directory with a folder, and with those that it lies in. -/
def addFolder (directory : Directory) (path : String) : Directory :=
  if maxPath < path.utf8ByteSize then directory
  else directory.addFoldersFrom (directory.start path) (names path)

end Directory

end Superstep
