import ClientBindings.Disk.Fault
import ClientBindings.Path
import ClientBindings.Table

/-!
# Disk — the folders and files that are there

A path is followed component by component, from the left.  Each component has to name a folder that
is there, even if a step back comes right after it, and the first one that does not is the fault.
The folder or file that a path leads to has a place: a path of its own without steps back, except in
front for what lies above the working folder.

* `Disk.find?` — what stands at a place;
* `Disk.follow`, `Disk.place` — the place of a folder, and the place that a path leads to;
* `Disk.read`, `Disk.write` — contents of a file;
* `Disk.make` — the disk on which all folders of a path are there;
* `Disk.ofFiles` — the disk of given files;
* `Disk.filesBelow`, `Disk.madeSince` — the files of a folder, and the files that are new on a disk.
-/

namespace ClientBindings

structure Disk where
  /-- Places of the folders that are not there from the start. -/
  folders : List Path
  /-- Contents of the files, by place. -/
  files : Table String

namespace Disk

def empty : Disk :=
  ⟨[], []⟩

/-! ## Places -/

/-- What stands at a place. -/
inductive Entry where
  | folder
  | file (text : String)

def find? (d : Disk) (place : Path) : Option Entry :=
  -- The working folder, the folders above it and the roots are always there.
  if place.isBase ∨ place ∈ d.folders then some .folder
  else (d.files.get? place.text).map .file

/-- The largest size of a name, in bytes. -/
def nameLimit : Nat := 255

/-- The largest size of a whole path, in bytes. -/
def pathLimit : Nat := 4095

def isLong (name : String) : Bool :=
  nameLimit < name.utf8ByteSize

/-- The fault of a name under which there is nothing. -/
def absent (name : String) : DiskFault :=
  if isLong name then .nameTooLong else .notFound

/-- Refuse a path that nothing could be found under. -/
def checked (p : Path) : Except DiskFault Unit :=
  if '\x00' ∈ p.text.toList then .error .nullCharacter
  else if pathLimit < p.text.utf8ByteSize then .error .nameTooLong
  else .ok ()

/-! ## Following paths -/

/-- The folder that a component leads down to. -/
def enter (d : Disk) (here : Path) (part : String) : Except DiskFault Path :=
  match d.find? (here.below part) with
  | some .folder => .ok (here.below part)
  | some (.file _) => .error .notFolder
  | none => .error (absent part)

/-- The folder that components lead to. -/
def follow (d : Disk) (here : Path) : List String → Except DiskFault Path
  | [] => .ok here
  | part :: rest =>
    if part = ".." then d.follow here.above rest
    else
      match d.enter here part with
      | .ok next => d.follow next rest
      | .error fault => .error fault

/-- The place that a path leads to, in a folder that is there.  There may be nothing at it. -/
def place (d : Disk) (p : Path) : Except DiskFault Path := do
  checked p
  match p.parts.getLast? with
  | none => return p.start
  | some name =>
    if name = ".." then d.follow p.start p.parts
    else
      let folder ← d.follow p.start p.parts.dropLast
      if isLong name then throw .nameTooLong else return folder.below name

/-! ## Files -/

def read (d : Disk) (p : Path) : Except DiskFault String := do
  match d.find? (← d.place p) with
  | some (.file text) => return text
  | some .folder => throw .isFolder
  | none => throw .notFound

/-- The disk after a file has got a text. -/
def write (d : Disk) (p : Path) (text : String) : Except DiskFault Disk := do
  let place ← d.place p
  match d.find? place with
  | some .folder => throw .isFolder
  | _ => return { d with files := d.files.insert place.text text }

/-- Whether two paths lead to one file or folder that is there. -/
def isSame (d : Disk) (p q : Path) : Bool :=
  match d.place p, d.place q with
  | .ok first, .ok second => first = second && (d.find? first).isSome
  | _, _ => false

/-- Files in a folder and in the folders below it. -/
def filesBelow (d : Disk) (folder : Path) : Table String :=
  match d.follow folder.start folder.parts with
  | .ok place => d.files.filter fun (name, _) => (Path.ofText name).isBelow place
  | .error _ => []

/-- Files of the working folder that were not there on an earlier disk. -/
def madeSince (d earlier : Disk) : Table String :=
  (d.filesBelow .working).filter fun (name, _) => !earlier.files.has name

/-! ## Making folders -/

/-- The disk after the folders that components lead through have been made; `made` tells whether one
had to be made already.  A file at the end of the path, or after a folder that had to be made, is in
the way of a folder; behind any other file the path cannot go on. -/
def makeFrom (d : Disk) (made : Bool) (here : Path) : List String → Except DiskFault Disk
  | [] => .ok d
  | part :: rest =>
    if part = ".." then d.makeFrom made here.above rest
    else
      let next := here.below part
      match d.find? next with
      | some .folder => d.makeFrom made next rest
      | some (.file _) => .error (if made ∨ rest = [] then .occupied else .notFolder)
      | none =>
        if isLong part then .error .nameTooLong
        else makeFrom { d with folders := next :: d.folders } true next rest

def make (d : Disk) (p : Path) : Except DiskFault Disk := do
  checked p
  d.makeFrom false p.start p.parts

/-- The disk with one more file, and with the folders that lead to it. -/
def add (d : Disk) (p : Path) (text : String) : Disk :=
  match d.make p.folder >>= fun made => made.write p text with
  | .ok d => d
  | .error _ => d

def ofFiles (files : Table String) : Disk :=
  files.foldl (fun d file => d.add (.ofText file.1) file.2) empty

end Disk
end ClientBindings
