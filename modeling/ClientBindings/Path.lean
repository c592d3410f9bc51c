import ClientBindings.Text.Pieces

/-!
# Path — places in the output tree

A path is a root and a list of components; empty components and single dots are left out.  Joining a
path with an absolute one gives the absolute one.

* `Path.ofText`, `Path.text` — reading and writing;
* `Path.join` — a path below a path;
* `Path.name`, `Path.suffix` — the last component, and what it ends in from its last dot on;
* `Path.start`, `Path.below`, `Path.above` — the folder a path starts from, and one component down
  or up from a folder;
* `Path.isBase` — whether a path leads nowhere but back;
* `Path.isBelow` — whether a path leads into a folder.
-/

namespace ClientBindings

structure Path where
  /-- One or two slashes of an absolute path; empty for a relative one. -/
  root : String
  parts : List String
  deriving DecidableEq

namespace Path

/-- Root of a written path: two slashes stay two, and more are one. -/
def rootOf : List Char → String
  | '/' :: '/' :: '/' :: _ => "/"
  | '/' :: '/' :: _ => "//"
  | '/' :: _ => "/"
  | _ => ""

def ofText (text : String) : Path :=
  let parts := (text.toList.splitOn '/').map String.ofList
  ⟨rootOf text.toList, parts.filter fun part => part ≠ "" ∧ part ≠ "."⟩

def text (p : Path) : String :=
  if p.root = "" ∧ p.parts = [] then "." else p.root ++ Text.joined "/" p.parts

def join (p q : Path) : Path :=
  if q.root = "" then ⟨p.root, p.parts ++ q.parts⟩ else q

/-- A file or folder below a path. -/
def child (p : Path) (name : String) : Path :=
  p.join (ofText name)

/-! ## Names -/

def name (p : Path) : String :=
  p.parts.getLast?.getD ""

/-- What a name ends in, from its last dot on.  A dot in front of everything else or behind it
starts no ending. -/
def suffix (p : Path) : String :=
  let letters := p.name.toList.reverse
  match letters.takeWhile (· ≠ '.'), letters.dropWhile (· ≠ '.') with
  | last :: before, '.' :: _ :: _ => .ofList ('.' :: (last :: before).reverse)
  | _, _ => ""

/-! ## Steps -/

/-- The working folder. -/
def working : Path :=
  ⟨"", []⟩

/-- The folder that a path starts from: the working folder, or the root it names. -/
def start (p : Path) : Path :=
  ⟨p.root, []⟩

/-- The path without its last component. -/
def folder (p : Path) : Path :=
  ⟨p.root, p.parts.dropLast⟩

/-- One component down from a folder. -/
def below (here : Path) (part : String) : Path :=
  ⟨here.root, here.parts ++ [part]⟩

/-- One step back from a folder.  Above the working folder there are more folders, and above a root
there is only the root again. -/
def above (here : Path) : Path :=
  if here.parts.getLast?.all (· = "..") then
    if here.root = "" then here.below ".." else here
  else here.folder

/-- Whether a path leads nowhere but back: to the folder it starts from, or to one above it. -/
def isBase (p : Path) : Bool :=
  p.parts.all (· = "..")

/-- Whether a path is one below a folder.  Both have no steps back except in front. -/
def isBelow (p folder : Path) : Bool :=
  folder.root = p.root && folder.parts.isPrefixOf p.parts &&
    p.parts[folder.parts.length]? ≠ some ".."

end Path
end ClientBindings
