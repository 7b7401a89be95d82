import RequestGuard.Store.Route
import RequestGuard.Table
import RequestGuard.Text.Glyph

/-!
# Disks

A disk holds files in folders below one root folder. An operation on one file or folder
either takes effect as a whole or is refused, and then the disk is as it was. Contents
are kept as the characters that their bytes spell.

Files and folders are found by routes from the root. A route passes through folders
only. It may go back, and even leave the disk through the root: above it are folders
that hold one another.
-/

namespace RequestGuard

/-- The names from the root of a disk down to a file or folder, after two points for
each folder gone up from the root. -/
abbrev Path : Type := List String

namespace Path

def text (p : Path) : String := "/".intercalate p

/-- Whether a path leads to the root or to a folder above it. -/
def holdsRoot (p : Path) : Bool := p.all Route.goesUp

/-- Whether a path leads out of the disk. -/
def isOutside (p : Path) : Bool := (p.head?.map Route.goesUp).getD false

def up (p : Path) : Path := if p.holdsRoot then ".." :: p else p.dropLast

end Path

inductive Node where
  | folder
  | file (contents : List Glyph)
deriving DecidableEq

/-- Why a disk refused an operation. -/
inductive DiskError where
  | isFolder
  | notFolder
  | missing
  | nameTooLong
  | nullCharacter
  /-- The medium itself failed. -/
  | medium
deriving DecidableEq

def DiskError.message : DiskError → String
  | .isFolder => "is a directory"
  | .notFolder => "not a directory"
  | .missing => "no such file or directory"
  | .nameTooLong => "file name too long"
  | .nullCharacter => "null character in a path"
  | .medium => "input/output error"

/-- The files and folders of a disk, and how its root is called in messages. -/
structure Disk where
  root : String
  nodes : Table Path Node

namespace Disk

def empty (root : String) : Disk := ⟨root, .empty⟩

def describe (d : Disk) (r : Route) : String := "/".intercalate (d.root :: r)

def node? (d : Disk) (p : Path) : Option Node :=
  if p.holdsRoot then some .folder else d.nodes.get? p

/-- The most bytes that a name may have. -/
def nameLimit : Nat := 255

/-- Where a route leads that goes on from a path. Only its last name may be one under
which nothing stands. -/
def follow (d : Disk) (p : Path) : Route → Except DiskError Path
  | [] => .ok p
  | segment :: rest =>
    match d.node? p with
    | none => .error .missing
    | some (.file _) => .error .notFolder
    | some .folder =>
      if Route.stays segment then d.follow p rest
      else if Route.goesUp segment then d.follow p.up rest
      else if nameLimit < segment.utf8ByteSize then .error .nameTooLong
      else d.follow (p ++ [segment]) rest

/-- Where a route leads. -/
def resolve (d : Disk) (r : Route) : Except DiskError Path :=
  if r.hasNull then .error .nullCharacter else d.follow [] r

/-- What a route leads to. -/
def find? (d : Disk) (r : Route) : Option Node :=
  match d.resolve r with
  | .error _ => none
  | .ok p => d.node? p

def contents? (d : Disk) (r : Route) : Option (List Glyph) :=
  match d.find? r with
  | some (.file contents) => some contents
  | _ => none

def put (d : Disk) (p : Path) (n : Node) : Disk := { d with nodes := d.nodes.insert p n }

/-- Makes a folder if nothing stands there yet. -/
def makeFolder (d : Disk) (r : Route) : Except DiskError Disk :=
  match d.resolve r with
  | .error e => .error e
  | .ok p => match d.node? p with
    | some .folder => .ok d
    | some (.file _) => .error .notFolder
    | none => .ok (d.put p .folder)

/-- Makes folders one after the other, up to the first that is refused. -/
def makeEach (d : Disk) : List Route → Except DiskError Unit × Disk
  | [] => (.ok (), d)
  | r :: rest => match d.makeFolder r with
    | .error e => (.error e, d)
    | .ok d => d.makeEach rest

/-- Makes a folder and those on the way to it, as far as they are not there. What was
made stays also when one is refused. -/
def makeFolders (d : Disk) (r : Route) : Except DiskError Unit × Disk :=
  if r.hasNull then (.error .nullCharacter, d) else d.makeEach r.stations

/-- Makes an empty file at the end of a route, also in place of a file. Its folder must
be there. -/
def create (d : Disk) (r : Route) : Except DiskError Disk :=
  match d.resolve r with
  | .error e => .error e
  | .ok p => match d.node? p with
    | some .folder => .error .isFolder
    | _ => .ok (d.put p (.file []))

/-- Gives the file that a route leads to other contents. -/
def fill (d : Disk) (r : Route) (contents : List Glyph) : Disk :=
  match d.resolve r with
  | .error _ => d
  | .ok p => match d.node? p with
    | some (.file _) => d.put p (.file contents)
    | _ => d

/-- Moves a file to the end of another route, also in place of a file. -/
def rename (d : Disk) (source target : Route) : Except DiskError Disk :=
  match d.resolve source, d.resolve target with
  | .error e, _ => .error e
  | _, .error e => .error e
  | .ok p, .ok q => match d.node? p, d.node? q with
    | some (.file _), some .folder => .error .isFolder
    | some (.file contents), _ =>
      if p = q then .ok d
      else .ok { d with nodes := (d.nodes.erase p).insert q (.file contents) }
    | some .folder, _ => .error .isFolder
    | none, _ => .error .missing

/-- Removes a file, or a folder with all that is in it. -/
def remove (d : Disk) (r : Route) : Disk :=
  match d.resolve r with
  | .error _ => d
  | .ok p => { d with nodes := d.nodes.filter fun q _ => !p.isPrefixOf q }

/-- Writes a file, and makes the folders on the way to it. -/
def write (d : Disk) (r : Route) (contents : List Glyph) : Except DiskError Unit × Disk :=
  match d.makeFolders r.folder with
  | (.error e, d) => (.error e, d)
  | (.ok (), d) => match d.create r with
    | .error e => (.error e, d)
    | .ok d => (.ok (), d.fill r contents)

/-- How a node is listed: with a slash behind a folder. -/
def listed (p : Path) : Node → String
  | .folder => p.text ++ "/"
  | .file _ => p.text

/-- All files and folders below the root, in ascending order. -/
def list (d : Disk) : List String :=
  ((d.nodes.bindings.filter fun b => !b.1.isOutside).map fun b => listed b.1 b.2).mergeSort
    fun a b => a ≤ b

end Disk

end RequestGuard
