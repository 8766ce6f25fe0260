import Organism.Error
import Organism.Text.Utf8

/-!
# Files

A path is a sequence of names, relative to the working directory unless it starts with a slash; two
slashes at the start are kept apart from one.  Empty names and the name `.` mean nothing and are
left out, `..` is kept.

A `FileSystem` is a finite tree of folders and files, as far as the organism knows it, with a
working directory in it.  A place in the tree is the list of the names that lead to it from the top.

* `FilePath.ofString`, `FilePath.text`   read and write a path; the one without names is `.`;
* `find`                      where a path leads, and what is there;
* `makeFolder`                a folder with all that are missing on the way to it;
* `read`, `write`, `append`   the content of a file;
* `replace`                   a file written as a whole: first beside its place, then moved into it,
                              so that a failure leaves the old content.
-/

namespace Organism

/-! ## paths -/

structure FilePath where
  /-- the slashes in front: none, one or two -/
  root : String
  names : List String
deriving DecidableEq

namespace FilePath

def pieces : List Char → List (List Char)
  | [] => [[]]
  | '/' :: cs => [] :: pieces cs
  | c :: cs =>
    match pieces cs with
    | [] => [[c]]
    | p :: ps => (c :: p) :: ps

def rootOf : List Char → String
  | '/' :: '/' :: '/' :: _ => "/"
  | '/' :: '/' :: _ => "//"
  | '/' :: _ => "/"
  | _ => ""

def ofString (s : String) : FilePath where
  root := rootOf s.toList
  names := ((pieces s.toList).map String.ofList).filter fun n => n != "" && n != "."

def text (p : FilePath) : String :=
  if p.root = "" ∧ p.names = [] then "." else p.root ++ "/".intercalate p.names

def parent (p : FilePath) : FilePath := { p with names := p.names.dropLast }

def isAbsolute (p : FilePath) : Bool := p.root != ""

/-- the path holds a character that no path can hold -/
def hasNul (p : FilePath) : Bool := p.names.any fun n => n.toList.contains '\x00'

def bytes (p : FilePath) : Nat := (Utf8.encode p.text.toList).length

end FilePath

/-! ## trees -/

inductive FileEntry where
  | folder
  | file (bytes : List UInt8)
deriving DecidableEq

structure FileSystem where
  /-- the place of the working directory -/
  home : List String := []
  /-- what is known of the tree beyond the way to the working directory -/
  entries : List (List String × FileEntry) := []

namespace FileSystem

/-! ## places -/

def entry? (fs : FileSystem) (place : List String) : Option FileEntry :=
  if place.isPrefixOf fs.home then some .folder else fs.entries.lookup place

def put (fs : FileSystem) (place : List String) (e : FileEntry) : FileSystem :=
  { fs with entries := (fs.entries.filter fun x => x.1 ≠ place) ++ [(place, e)] }

def remove (fs : FileSystem) (place : List String) : FileSystem :=
  { fs with entries := fs.entries.filter fun x => x.1 ≠ place }

/-- the path of a place from the top -/
def absolute (place : List String) : String := "/" ++ "/".intercalate place

/-- greatest length of a name, in bytes -/
def nameLimit : Nat := 255

/-- least length of a path that is too long, in bytes -/
def pathLimit : Nat := 4096

def follow (fs : FileSystem) (here : List String × Option FileEntry) (name : String) :
    Except OsReason (List String × Option FileEntry) :=
  match here.2 with
  | none => .error .notFound
  | some (.file _) => .error .notDirectory
  | some .folder =>
    if name = ".." then .ok (here.1.dropLast, fs.entry? here.1.dropLast)
    else if nameLimit < (Utf8.encode name.toList).length then .error .nameTooLong
    else .ok (here.1 ++ [name], fs.entry? (here.1 ++ [name]))

/-- where a path leads, and what is there -/
def find (fs : FileSystem) (p : FilePath) : Except OsReason (List String × Option FileEntry) :=
  if pathLimit ≤ p.bytes then .error .nameTooLong
  else p.names.foldlM fs.follow (if p.isAbsolute then [] else fs.home, some .folder)

/-! ## folders -/

def makeOne (fs : FileSystem) (p : FilePath) : FileSystem × Except OsReason Unit :=
  match fs.find p with
  | .error reason => (fs, .error reason)
  | .ok (_, some .folder) => (fs, .ok ())
  | .ok (_, some (.file _)) => (fs, .error .exists)
  | .ok (place, none) => (fs.put place .folder, .ok ())

def makeAll (fs : FileSystem) (root : String) : List String → FileSystem × Except FileError Unit
  | [] => (fs, .ok ())
  | name :: names =>
    let p : FilePath := ⟨root, (name :: names).reverse⟩
    let refused (reason : OsReason) : FileError := .os reason p.text none
    match fs.makeOne p with
    | (fs, .ok ()) => (fs, .ok ())
    | (fs, .error .notFound) =>
      match makeAll fs root names with
      | (fs, .error e) => (fs, .error e)
      | (fs, .ok ()) => ((fs.makeOne p).1, (fs.makeOne p).2.mapError refused)
    | (fs, .error reason) => (fs, .error (refused reason))

/-- a folder made with all that are missing on the way to it -/
def makeFolder (fs : FileSystem) (p : FilePath) : FileSystem × Except FileError Unit :=
  if p.hasNul then (fs, .error .nulInPath) else makeAll fs p.root p.names.reverse

/-! ## files -/

def read (fs : FileSystem) (p : FilePath) : Except FileError (List UInt8) :=
  if p.hasNul then .error .nulInPath
  else
    match fs.find p with
    | .error reason => .error (.os reason p.text none)
    | .ok (_, none) => .error (.os .notFound p.text none)
    | .ok (_, some .folder) => .error (.os .isDirectory p.text none)
    | .ok (_, some (.file bytes)) => .ok bytes

def temporaryName (n : Nat) : String :=
  let ds := Nat.toDigits 10 n
  "tmp" ++ .ofList (List.replicate (8 - ds.length) '0' ++ ds) ++ ".tmp"

def temporary (fs : FileSystem) (folder : List String) : List String :=
  let free := (List.range (fs.entries.length + 2)).find? fun n =>
    !(fs.entry? (folder ++ [temporaryName n])).isSome
  folder ++ [temporaryName (free.getD 0)]

/-- a path that a file cannot be moved to, whatever is there -/
def isFixed (p : FilePath) : Bool :=
  match p.names.getLast? with
  | none => true
  | some name => name == ".."

/-- a temporary file moved to a path -/
def move (fs : FileSystem) (temp : List String) (bytes : List UInt8) (p : FilePath) :
    FileSystem × Except FileError Unit :=
  let refused (reason : OsReason) : FileError := .os reason (absolute temp) (some p.text)
  match fs.find p with
  | .error reason => (fs.remove temp, .error (refused reason))
  | .ok (place, found) =>
    if isFixed p then (fs.remove temp, .error (refused .busy))
    else
      match found with
      | some .folder => (fs.remove temp, .error (refused .isDirectory))
      | _ => ((fs.remove temp).put place (.file bytes), .ok ())

/-- a file written as a whole, with the folders on the way to it; a path that only the system
refuses leaves the temporary file behind -/
def replace (fs : FileSystem) (p : FilePath) (bytes : List UInt8) :
    FileSystem × Except FileError Unit :=
  match fs.makeFolder p.parent with
  | (fs, .error e) => (fs, .error e)
  | (fs, .ok ()) =>
    match fs.find p.parent with
    | .error reason => (fs, .error (.os reason p.parent.text none))
    | .ok (folder, _) =>
      let temp := fs.temporary folder
      let fs := fs.put temp (.file bytes)
      if p.hasNul then (fs, .error .nulInPath) else fs.move temp bytes p

/-- a file written in place, with the folders on the way to it -/
def write (fs : FileSystem) (p : FilePath) (bytes : List UInt8) :
    FileSystem × Except FileError Unit :=
  match fs.makeFolder p.parent with
  | (fs, .error e) => (fs, .error e)
  | (fs, .ok ()) =>
    if p.hasNul then (fs, .error .nulInPath)
    else
      match fs.find p with
      | .error reason => (fs, .error (.os reason p.text none))
      | .ok (_, some .folder) => (fs, .error (.os .isDirectory p.text none))
      | .ok (place, _) => (fs.put place (.file bytes), .ok ())

/-- bytes added to the end of a file, which is made if it is not there -/
def append (fs : FileSystem) (p : FilePath) (bytes : List UInt8) :
    FileSystem × Except FileError Unit :=
  if p.hasNul then (fs, .error .nulInPath)
  else
    match fs.find p with
    | .error reason => (fs, .error (.os reason p.text none))
    | .ok (_, some .folder) => (fs, .error (.os .isDirectory p.text none))
    | .ok (place, some (.file old)) => (fs.put place (.file (old ++ bytes)), .ok ())
    | .ok (place, none) => (fs.put place (.file bytes), .ok ())

def listing (fs : FileSystem) : List String :=
  let below := fs.entries.filterMap fun (place, _) =>
    if fs.home.isPrefixOf place then some ("/".intercalate (place.drop fs.home.length)) else none
  below.mergeSort fun a b => !(b < a)

end FileSystem

end Organism
