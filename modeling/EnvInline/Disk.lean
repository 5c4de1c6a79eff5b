import EnvInline.Path

/-!
# Disks

A disk holds files and directories, each with the time of its last change in microseconds. A path
is followed one segment after the other, and each step needs a directory to stand in. A relative
path starts from a directory that is given along with it.

Places are free of links: every file and directory has the one place that the names on the way to it
spell, and `..` leads to the directory that a place is in. Nothing is closed off either: whoever asks
may read and write everywhere.
-/

namespace EnvInline

/-- Why an access to a disk fails. -/
inductive DiskError where
  | notFound
  | notDirectory
  | isDirectory
  | alreadyExists
  | notEmpty
  | nameTooLong
  | holdsNul
  | notText
  | other (message : String)
deriving DecidableEq, Repr

namespace DiskError

/-- The kind of the error. -/
def kind : DiskError → String
  | notFound => "entity not found"
  | notDirectory => "not a directory"
  | isDirectory => "is a directory"
  | alreadyExists => "entity already exists"
  | notEmpty => "directory not empty"
  | nameTooLong => "invalid filename"
  | holdsNul => "invalid input parameter"
  | notText => "invalid data"
  | other _ => "other error"

/-- How the error is said in full. -/
def message : DiskError → String
  | notFound => "No such file or directory (os error 2)"
  | notDirectory => "Not a directory (os error 20)"
  | isDirectory => "Is a directory (os error 21)"
  | alreadyExists => "File exists (os error 17)"
  | notEmpty => "Directory not empty (os error 39)"
  | nameTooLong => "File name too long (os error 36)"
  | holdsNul => "file name contained an unexpected NUL byte"
  | notText => "stream did not contain valid UTF-8"
  | other message => message

end DiskError

/-- A place on a disk: the names on the way to it, the last one first. -/
abbrev Place := List String

/-- What is at a place. -/
inductive Node where
  | file (content : List UInt8) (modified : Int)
  | directory (modified : Int)
deriving DecidableEq, Repr

/-- When the node was changed. -/
def Node.modified : Node → Int
  | file _ modified => modified
  | directory modified => modified

/-- Files and directories at their places. The directory at the root is not among them. -/
structure Disk where
  nodes : List (Place × Node)
deriving DecidableEq, Repr, Inhabited

namespace Disk

/-- The disk with nothing on it. -/
def empty : Disk := ⟨[]⟩

/-- What is at a place. -/
def node? (d : Disk) (place : Place) : Option Node :=
  if place = [] then some (.directory 0) else d.nodes.lookup place

/-- The disk with a node at a place. -/
def put (d : Disk) (place : Place) (node : Node) : Disk :=
  ⟨(place, node) :: d.nodes.filter (·.1 != place)⟩

/-- The disk with nothing at a place. -/
def erase (d : Disk) (place : Place) : Disk := ⟨d.nodes.filter (·.1 != place)⟩

/-- Whether a directory has anything in it. -/
def hasEntries (d : Disk) (place : Place) : Bool := d.nodes.any fun p => p.1.drop 1 == place

/-! ### Following paths -/

/-- One step from a place. -/
def step (d : Disk) (here : Place) (segment : List Char) : Except DiskError Place :=
  match d.node? here with
  | none => .error .notFound
  | some (.file _ _) => .error .notDirectory
  | some (.directory _) =>
    if segment = [] ∨ segment = ['.'] then .ok here
    else if segment = ['.', '.'] then .ok (here.drop 1)
    else
      let name := String.ofList segment
      if name.utf8ByteSize > 255 then .error .nameTooLong else .ok (name :: here)

/-- Some steps from a place. There may be nothing at the last place. -/
def walk (d : Disk) (here : Place) : List (List Char) → Except DiskError Place
  | [] => .ok here
  | s :: ss =>
    match d.step here s with
    | .error e => .error e
    | .ok place => d.walk place ss

/-- A path that no disk can follow. -/
def refusal? (p : Path) : Option DiskError :=
  if '\x00' ∈ p.text.toList then some .holdsNul
  else if p.text.isEmpty then some .notFound
  else if p.text.utf8ByteSize ≥ 4096 then some .nameTooLong
  else none

/-- The segments from the root on. -/
def segmentsFrom (cwd p : Path) : List (List Char) :=
  if p.isAbsolute then Path.segments p.text.toList
  else Path.segments cwd.text.toList ++ Path.segments p.text.toList

/-- The place that a path leads to from a directory. -/
def locate (d : Disk) (cwd p : Path) : Except DiskError Place :=
  match refusal? p with
  | some e => .error e
  | none => d.walk [] (segmentsFrom cwd p)

/-- What a path leads to. -/
def find (d : Disk) (cwd p : Path) : Except DiskError (Place × Node) :=
  match d.locate cwd p with
  | .error e => .error e
  | .ok place =>
    match d.node? place with
    | none => .error .notFound
    | some node => .ok (place, node)

/-- The place at which a path would put something new, and whether the path ends in a name. -/
def locateNew (d : Disk) (cwd p : Path) : Except DiskError (Place × Bool) :=
  match refusal? p with
  | some e => .error e
  | none =>
    let segments := (segmentsFrom cwd p).filter (· ≠ [])
    match d.walk [] segments with
    | .error e => .error e
    | .ok place =>
      .ok (place, segments.getLast?.any fun s => s != ['.'] && s != ['.', '.'])

/-! ### Reading -/

/-- When a file or directory was changed, if it is there. -/
def modified? (d : Disk) (cwd p : Path) : Option Int :=
  match d.find cwd p with
  | .ok (_, node) => some node.modified
  | .error _ => none

/-- The content of a file. -/
def read (d : Disk) (cwd p : Path) : Except DiskError (List UInt8) :=
  match d.find cwd p with
  | .error e => .error e
  | .ok (_, .directory _) => .error .isDirectory
  | .ok (_, .file content _) => .ok content

/-- Whether there is a directory. -/
def isDirectory (d : Disk) (cwd p : Path) : Bool :=
  match d.find cwd p with
  | .ok (_, .directory _) => true
  | _ => false

/-! ### Writing -/

/-- The disk with a content in a file, which is made if there is none. -/
def write (d : Disk) (cwd p : Path) (content : List UInt8) (now : Int) : Except DiskError Disk :=
  match d.locateNew cwd p with
  | .error e => .error e
  | .ok (place, isName) =>
    if !isName || p.text.endsWith "/" then .error .isDirectory
    else
      match d.node? place with
      | some (.directory _) => .error .isDirectory
      | _ => .ok (d.put place (.file content now))

/-- The disk with a new directory. -/
def makeDirectory (d : Disk) (cwd p : Path) (now : Int) : Except DiskError Disk :=
  match d.locateNew cwd p with
  | .error e => .error e
  | .ok (place, isName) =>
    if !isName || (d.node? place).isSome then .error .alreadyExists
    else .ok (d.put place (.directory now))

/-- Makes the first of some directories, each of which is in the next one, with as many of those
behind it as are missing. It is fine if the first one is there. If it cannot be made, those behind
it stay. -/
def makeNested (d : Disk) (cwd : Path) (now : Int) : List Path → Except (DiskError × Disk) Disk
  | [] => .ok d
  | p :: ps =>
    if p.components.isEmpty then .ok d
    else
      let settle (d : Disk) (e : DiskError) : Except (DiskError × Disk) Disk :=
        if d.isDirectory cwd p then .ok d else .error (e, d)
      match d.makeDirectory cwd p now with
      | .ok d => .ok d
      | .error .notFound =>
        match d.makeNested cwd now ps with
        | .error left => .error left
        | .ok d =>
          match d.makeDirectory cwd p now with
          | .ok d => .ok d
          | .error e => settle d e
      | .error e => settle d e

/-- The disk with a directory and all those it is in; on a failure, the disk with those that were
made. -/
def makeDirectories (d : Disk) (cwd p : Path) (now : Int) : Except (DiskError × Disk) Disk :=
  d.makeNested cwd now p.ancestors

/-- The disk with a file or an empty directory taken away. -/
def remove (d : Disk) (cwd p : Path) : Except DiskError Disk :=
  match d.find cwd p with
  | .error e => .error e
  | .ok (place, .file _ _) => .ok (d.erase place)
  | .ok (place, .directory _) =>
    if d.hasEntries place then .error .notEmpty else .ok (d.erase place)

/-- The disk with another time of the last change of a file or directory. -/
def touch (d : Disk) (cwd p : Path) (time : Int) : Except DiskError Disk :=
  match d.find cwd p with
  | .error e => .error e
  | .ok (place, .file content _) => .ok (d.put place (.file content time))
  | .ok (place, .directory _) => .ok (d.put place (.directory time))

end Disk

end EnvInline
