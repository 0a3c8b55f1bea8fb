import Cadastre.Path
import Cadastre.Plan
import Cadastre.Snapshot.Order
import Cadastre.Text.Stored

/-!
# Disks

Files and directories that change. A path is followed piece by piece from the root or from a working
directory: every piece but the last must name a directory, a single point stays and `..` goes up.
Writing a file makes the directories above it that are missing. A request that cannot be answered
says why in the words of the operating system.
-/

namespace Cadastre

/-- What is at a place of a disk. -/
inductive DiskNode where
  /-- A file with what it says. -/
  | file (text : StoredText)
  /-- A directory. -/
  | directory (entries : List (String × DiskNode))

/-- Why a disk refuses a request. -/
inductive DiskFault where
  | absent
  | occupied
  | notDirectory
  | isDirectory
  | nameTooLong
  | notText
  | nulByte
deriving DecidableEq, Repr

/-- The fault in words. -/
def DiskFault.text : DiskFault → String
  | absent => "No such file or directory (os error 2)"
  | occupied => "File exists (os error 17)"
  | notDirectory => "Not a directory (os error 20)"
  | isDirectory => "Is a directory (os error 21)"
  | nameTooLong => "File name too long (os error 36)"
  | notText => "stream did not contain valid UTF-8"
  | nulByte => "file name contained an unexpected NUL byte"

namespace DiskNode

/-- What is at the end of names that lead down from a node. -/
def find? : List String → DiskNode → Option DiskNode
  | [], n => some n
  | name :: names, directory entries => (List.lookup name entries).bind (find? names)
  | _ :: _, file _ => none

/-- Entries with one put under its name. -/
def setEntry (name : String) (node : DiskNode) :
    List (String × DiskNode) → List (String × DiskNode)
  | [] => [(name, node)]
  | (other, n) :: rest =>
    if other == name then (name, node) :: rest else (other, n) :: setEntry name node rest

/-- A node with another one put at the end of names that lead down from it; names that are missing
become directories, and below a file nothing is put. -/
def put (new : DiskNode) : List String → DiskNode → DiskNode
  | [], _ => new
  | name :: names, directory entries =>
    directory (setEntry name
      (put new names ((List.lookup name entries).getD (directory []))) entries)
  | _ :: _, file text => file text

end DiskNode

/-- Files and directories, and the directory in which paths begin that are not absolute. -/
structure Disk where
  /-- The directory at the root. -/
  root : DiskNode := .directory []
  /-- The names that lead to the working directory. -/
  workingDirectory : List String := []

namespace Disk

/-- The most bytes that a name can have. -/
def nameLimit : Nat := 255

/-- The number of bytes from which on a path is too long. -/
def pathLimit : Nat := 4096

/-- Follows the pieces of a path from a place on, and gives the place at their end. -/
def follow (d : Disk) : List String → List String → Except DiskFault (List String)
  | place, [] => .ok place
  | place, piece :: pieces =>
    match d.root.find? place with
    | some (.directory entries) =>
      if piece == "." then d.follow place pieces
      else if piece == ".." then d.follow place.dropLast pieces
      else if nameLimit < piece.utf8ByteSize then .error .nameTooLong
      else if (List.lookup piece entries).isSome then d.follow (place ++ [piece]) pieces
      else .error .absent
    | some (.file _) => .error .notDirectory
    | none => .error .absent

/-- Refuses a text that is no path at all. -/
def checkPath (path : String) : Except DiskFault Unit :=
  if path.toList.contains '\x00' then .error .nulByte
  else if pathLimit ≤ path.utf8ByteSize then .error .nameTooLong
  else if path.isEmpty then .error .absent
  else .ok ()

/-- The place where a path begins. -/
def beginning (d : Disk) (path : String) : List String :=
  if Path.isAbsolute path then [] else d.workingDirectory

/-- Whether a path ends in a slash, and so must lead to a directory. -/
def endsInSlash (path : String) : Bool := path.toList.getLast? == some '/'

/-- The place of a path. -/
def place (d : Disk) (path : String) : Except DiskFault (List String) := do
  checkPath path
  d.follow (d.beginning path)
    (Path.pieces path ++ if endsInSlash path then ["."] else [])

/-- What is at a path. -/
def node (d : Disk) (path : String) : Except DiskFault DiskNode := do
  match d.root.find? (← d.place path) with
  | some n => .ok n
  | none => .error .absent

/-- Whether something is at a path. -/
def probe (d : Disk) (path : String) : Bool := (d.node path).toOption.isSome

/-- Whether a file is at a path. -/
def isFile (d : Disk) (path : String) : Bool :=
  match d.node path with
  | .ok (.file _) => true
  | _ => false

/-- Whether a directory is at a path. -/
def isDirectory (d : Disk) (path : String) : Bool :=
  match d.node path with
  | .ok (.directory _) => true
  | _ => false

/-- What a file says. -/
def stored (d : Disk) (path : String) : Except DiskFault StoredText := do
  match ← d.node path with
  | .file text => .ok text
  | .directory _ => .error .isDirectory

/-- The text of a file. -/
def read (d : Disk) (path : String) : Except DiskFault String := do
  match (← d.stored path).text? with
  | some text => .ok text
  | none => .error .notText

/-- The text of a file up to the first line that is no text. -/
def readStart (d : Disk) (path : String) : Except DiskFault String :=
  (d.stored path).map StoredText.start

/-- The names in a directory, in ascending order. -/
def list (d : Disk) (path : String) : Except DiskFault (List String) := do
  match ← d.node path with
  | .directory entries => .ok (sortByKey id (entries.map Prod.fst))
  | .file _ => .error .notDirectory

/-! ## Writing -/

/-- The directory in which the last piece of a path stands, and that piece; a path whose last piece
is no name has none. -/
def lastName (d : Disk) (path : String) :
    Except DiskFault (Option (List String × List (String × DiskNode) × String)) := do
  checkPath path
  let pieces := Path.pieces path
  let above ← d.follow (d.beginning path) pieces.dropLast
  match pieces.getLast? with
  | none => .ok none
  | some name =>
    match d.root.find? above with
    | some (.directory entries) =>
      if name == "." || name == ".." then .ok none
      else if nameLimit < name.utf8ByteSize then .error .nameTooLong
      else .ok (some (above, entries, name))
    | some (.file _) => .error .notDirectory
    | none => .error .absent

/-- A disk with a node put at a place. -/
def put (d : Disk) (place : List String) (node : DiskNode) : Disk :=
  { d with root := DiskNode.put node place d.root }

/-- Makes a directory where nothing is yet. -/
def makeDirectory (d : Disk) (path : String) : Except DiskFault Disk := do
  match ← d.lastName path with
  | none => .error .occupied
  | some (above, entries, name) =>
    if (List.lookup name entries).isSome then .error .occupied
    else .ok (d.put (above ++ [name]) (.directory []))

/-- Makes a directory, unless it is there. -/
def ensureDirectory (d : Disk) (path : String) : Except DiskFault Disk :=
  match d.makeDirectory path with
  | .ok d => .ok d
  | .error fault => if d.isDirectory path then .ok d else .error fault

/-- Makes a directory and those above it that are missing, with as many steps up as are allowed; of
a directory that cannot be made, those above it may be there afterwards. -/
def makeDirectories (d : Disk) : Nat → String → Except DiskFault Unit × Disk
  | 0, _ => (.error .absent, d)
  | steps + 1, path =>
    if path.isEmpty then (.ok (), d)
    else
      match d.ensureDirectory path, Path.parent? path with
      | .ok d, _ => (.ok (), d)
      | .error .absent, some above =>
        match d.makeDirectories steps above with
        | (.error fault, d) => (.error fault, d)
        | (.ok (), d) =>
          match d.ensureDirectory path with
          | .ok d => (.ok (), d)
          | .error fault => (.error fault, d)
      | .error fault, _ => (.error fault, d)

/-- Puts a text into a file whose directory is there. -/
def putText (d : Disk) (path text : String) : Except DiskFault Disk := do
  match ← d.lastName path with
  | none => .error .isDirectory
  | some (above, entries, name) =>
    match List.lookup name entries with
    | some (.directory _) => .error .isDirectory
    | _ =>
      if endsInSlash path then .error .isDirectory
      else .ok (d.put (above ++ [name]) (.file ⟨text, true⟩))

/-- Puts a text into a file, and makes the directories above it. -/
def write (d : Disk) (path text : String) : Except DiskFault Unit × Disk :=
  match d.makeDirectories ((Path.components path).length + 1) ((Path.parent? path).getD "") with
  | (.error fault, d) => (.error fault, d)
  | (.ok (), d) =>
    match d.putText path text with
    | .ok d => (.ok (), d)
    | .error fault => (.error fault, d)

/-! ## As a world -/

/-- The message of a fault. -/
def orMessage {α : Type} : Except DiskFault α → Except String α
  | .ok a => .ok a
  | .error fault => .error fault.text

/-- The world of a disk at a time. -/
def world (time : Instant) : Plan.World Disk
  | .probe path, d => (.ok (d.probe path), d)
  | .isFile path, d => (.ok (d.isFile path), d)
  | .read path, d => (.ok (orMessage (d.read path)), d)
  | .readStart path, d => (.ok (orMessage (d.readStart path)), d)
  | .list path, d => (.ok (orMessage (d.list path)), d)
  | .write path text, d =>
    let (outcome, d) := d.write path text
    (.ok (orMessage outcome), d)
  | .now, d => (.ok time, d)
  | .log _, d => (.ok (), d)
  | .print _, d => (.ok (), d)
  | .abort message, d => (.error message, d)

end Disk

end Cadastre
