import TapeSheet.Fault

/-!
# Files and directories

A tree of files and directories with a working directory, and the requests that programs make of it. A request
either changes the tree or is refused with a reason; making directories may leave some of them behind when a later
one is refused.
-/

namespace TapeSheet

/-- A place in the tree, by the names on the way from the root. -/
abbrev Location := List Text

/-- What stands at a place. -/
inductive Entry
  | file (text : String)
  | directory
  deriving DecidableEq

/-- A tree of files and directories, and the working directory in it. -/
structure Disk where
  entries : List (Location × Entry)
  here : Location
  deriving DecidableEq

/-- Why a path leads nowhere. -/
inductive Obstacle
  | missing
  | notDirectory
  | nameTooLong
  deriving DecidableEq

namespace Disk

/-- What stands at a place; the root is always a directory. -/
def entry? (d : Disk) (place : Location) : Option Entry :=
  if place = [] then some .directory else d.entries.lookup place

/-- Entries with one set: a place keeps its position, a new one goes to the end. -/
def setEntry (place : Location) (entry : Entry) : List (Location × Entry) → List (Location × Entry)
  | [] => [(place, entry)]
  | old :: rest => if old.1 = place then (place, entry) :: rest else old :: setEntry place entry rest

/-- The tree with an entry set. -/
def set (d : Disk) (place : Location) (entry : Entry) : Disk :=
  { d with entries := setEntry place entry d.entries }

/-! ## Paths -/

/-- The place that names lead to from another one. All places on the way have to be directories; the last one need
not exist. -/
def follow (d : Disk) : Location → List Text → Except Obstacle Location
  | place, [] => .ok place
  | place, name :: rest =>
    match d.entry? place with
    | none => .error .missing
    | some (.file _) => .error .notDirectory
    | some .directory =>
      if Path.nameLimit < Path.nameSize name then .error .nameTooLong
      else d.follow (if name = Text.ofString ".." then place.dropLast else place ++ [name]) rest

/-- Where a path starts. -/
def start (d : Disk) : Anchor → Location
  | .here => d.here
  | _ => []

/-- The fault of a path that leads nowhere. -/
def blocked (p : Path) : Obstacle → Fault
  | .missing => .file (.missing p)
  | .notDirectory => .file (.notDirectory p)
  | .nameTooLong => .file (.nameTooLong p)

/-- The place of a path. No path can hold what is no name of a file, whatever the tree is. -/
def locate (d : Disk) (p : Path) : Except Fault Location :=
  match p.misfit? with
  | some misfit => .error (.unencodable misfit)
  | none =>
    if p.hasNul then .error (.range .nulInPath)
    else if p.isTooLong then .error (.file (.nameTooLong p))
    else (d.follow (d.start p.anchor) p.names).mapError (blocked p)

/-- What stands at a path. A path that leads nowhere holds nothing, but one that is too long cannot be asked for. -/
def at? (d : Disk) (p : Path) : Except Fault (Option Entry) :=
  match d.locate p with
  | .ok place => .ok (d.entry? place)
  | .error (.file (.nameTooLong p)) => .error (.file (.nameTooLong p))
  | .error _ => .ok none

/-- Something stands at a path. -/
def holds (d : Disk) (p : Path) : Except Fault Bool := (d.at? p).map Option.isSome

/-! ## Requests -/

/-- The text of a file. -/
def read (d : Disk) (p : Path) : Except Fault String :=
  match d.locate p with
  | .error fault => .error fault
  | .ok place =>
    match d.entry? place with
    | none => .error (.file (.missing p))
    | some .directory => .error (.file (.isDirectory p))
    | some (.file text) => .ok text

/-- Opens a file for writing, which makes it if it is not there. -/
def openFile (d : Disk) (p : Path) : Except Fault (Disk × Location) :=
  match d.locate p with
  | .error fault => .error fault
  | .ok place =>
    match d.entry? place with
    | none => .ok (d.set place (.file ""), place)
    | some .directory => .error (.file (.isDirectory p))
    | some (.file _) => .ok (d, place)

/-- Puts a text in place of what a file holds. -/
def write (d : Disk) (p : Path) (text : String) : Except Fault Disk :=
  (d.openFile p).map fun (opened, place) => opened.set place (.file text)

/-- Adds a text at the end of an open file. -/
def append (d : Disk) (place : Location) (text : String) : Disk :=
  match d.entry? place with
  | some (.file old) => d.set place (.file (old ++ text))
  | _ => d

/-- Makes one directory where nothing stands. -/
def makeDirectory (d : Disk) (p : Path) : Except Fault Disk :=
  match d.locate p with
  | .error fault => .error fault
  | .ok place =>
    match d.entry? place with
    | none => .ok (d.set place .directory)
    | some _ => .error (.file (.occupied p))

/-- A directory that is there already needs not be made. -/
def unlessThere (d : Disk) (p : Path) (fault : Fault) : Except Fault Unit :=
  match fault with
  | .file (.missing _) => .error fault
  | .file _ =>
    match d.at? p with
    | .ok (some .directory) => .ok ()
    | .ok _ => .error fault
    | .error fault => .error fault
  | _ => .error fault

/-- Makes a directory with all directories above it, as far as they are not there. -/
def makeDirectories (d : Disk) (p : Path) : Disk × Except Fault Unit :=
  match d.makeDirectory p with
  | .ok made => (made, .ok ())
  | .error (.file (.missing missing)) =>
    if p.names = [] then (d, .error (.file (.missing missing)))
    else match d.makeDirectories p.parent with
      | (above, .error fault) => (above, .error fault)
      | (above, .ok ()) =>
        match above.makeDirectory p with
        | .ok made => (made, .ok ())
        | .error fault => (above, above.unlessThere p fault)
  | .error fault => (d, d.unlessThere p fault)
termination_by p.names.length
decreasing_by
  rename_i nonempty
  simp only [Path.parent, List.length_dropLast]
  have := List.length_pos_iff.mpr nonempty
  omega

end Disk

end TapeSheet
