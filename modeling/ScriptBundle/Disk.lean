import ScriptBundle.Path

/-! A file system as a value: a finite table from places to directories, files and links, with a
working directory. Looking a path up follows links from left to right, as the operating system
does, and gives up after forty of them; the result of a look-up is a place, whose spelling is the
canonical path of what was found. -/
namespace ScriptBundle

/-- A place is the list of names on the way down from the root. -/
abbrev Place := List String

/-- What a place holds. -/
inductive Entry where
  | directory
  | file (content : ByteArray)
  | link (target : String)
  deriving Inhabited

/-- Why the file system refuses; other devices may add reasons of their own. -/
inductive Fault where
  | notFound
  | notDirectory
  | isDirectory
  | alreadyExists
  | tooManyLinks
  | notText
  | nulInName
  | other (text : String)
  deriving DecidableEq, Inhabited, Repr

def Fault.message : Fault → String
  | .notFound => "No such file or directory (os error 2)"
  | .notDirectory => "Not a directory (os error 20)"
  | .isDirectory => "Is a directory (os error 21)"
  | .alreadyExists => "File exists (os error 17)"
  | .tooManyLinks => "Too many levels of symbolic links (os error 40)"
  | .notText => "stream did not contain valid UTF-8"
  | .nulInName => "file name contained an unexpected NUL byte"
  | .other text => text

/-- The table of places other than the root, which is always a directory. -/
structure Disk where
  entries : List (Place × Entry)
  workingDirectory : Place

namespace Disk

def entry? (d : Disk) (place : Place) : Option Entry :=
  if place.isEmpty then some .directory else d.entries.lookup place

/-- The canonical path of a place. -/
def canonical (place : Place) : Path := Path.ofPieces true place

/-- How many links one look-up follows. -/
def linkLimit : Nat := 40

/-- The steps of a path: empty pieces are skipped, but a final separator asks for a directory. -/
def stepsOf : List String → List String
  | [] => []
  | [piece] => if piece = "" then ["."] else [piece]
  | piece :: rest => if piece = "" then stepsOf rest else piece :: stepsOf rest

def steps (p : Path) : List String := stepsOf p.pieces

/-- The place reached from a directory by the given steps, where `follow` goes on from a link, given
the directory that holds it, its target and the steps behind it. With `create`, the last step may
name something that does not exist yet. -/
def walkOver (d : Disk) (create : Bool)
    (follow : Place → String → List String → Except Fault Place) :
    Place → List String → Except Fault Place
  | place, [] => .ok place
  | place, step :: rest =>
    match d.entry? place with
    | some .directory =>
      if step = "." then d.walkOver create follow place rest
      else if step = ".." then d.walkOver create follow place.dropLast rest
      else
        match d.entry? (place ++ [step]) with
        | none => if create && rest.isEmpty then .ok (place ++ [step]) else .error .notFound
        | some (.link target) => follow place target rest
        | some _ => d.walkOver create follow (place ++ [step]) rest
    | _ => .error .notDirectory

/-- The place reached from a directory by the given steps, following at most a number of links. -/
def walk (d : Disk) (create : Bool) : Nat → Place → List String → Except Fault Place
  | 0 => d.walkOver create fun _ _ _ => .error .tooManyLinks
  | links + 1 => d.walkOver create fun place target rest =>
    if target = "" then .error .notFound
    else d.walk create links (if (Path.mk target).isAbsolute then [] else place)
      (steps ⟨target⟩ ++ rest)

/-- Where a path leads, with or without leave to name something new at its end. -/
def reach (d : Disk) (create : Bool) (p : Path) : Except Fault Place :=
  if p.text.toList.contains '\x00' then .error .nulInName
  else if p.text = "" then .error .notFound
  else d.walk create linkLimit (if p.isAbsolute then [] else d.workingDirectory) (steps p)

/-- The place a path denotes, all links followed. -/
def locate (d : Disk) (p : Path) : Except Fault Place := d.reach false p

def isFile (d : Disk) (p : Path) : Bool :=
  match d.locate p with
  | .ok place => match d.entry? place with
    | some (.file _) => true
    | _ => false
  | .error _ => false

def isDirectory (d : Disk) (p : Path) : Bool :=
  match d.locate p with
  | .ok place => match d.entry? place with
    | some .directory => true
    | _ => false
  | .error _ => false

def exists? (d : Disk) (p : Path) : Bool := (d.locate p).isOk

/-- The canonical path of what a path denotes. -/
def canonicalize (d : Disk) (p : Path) : Except Fault Path := canonical <$> d.locate p

/-- The bytes of the file that a path denotes. -/
def readBytes (d : Disk) (p : Path) : Except Fault ByteArray := do
  match d.entry? (← d.locate p) with
  | some (.file content) => .ok content
  | some .directory => .error .isDirectory
  | _ => .error .notFound

/-- The text of the file that a path denotes. -/
def readText (d : Disk) (p : Path) : Except Fault String := do
  match String.fromUTF8? (← d.readBytes p) with
  | some text => .ok text
  | none => .error .notText

/-- The disk with one place set. -/
def put (d : Disk) (place : Place) (e : Entry) : Disk :=
  { d with entries := (place, e) :: d.entries.filter (·.1 ≠ place) }

/-- The disk without a place and all that lies below it. -/
def remove (d : Disk) (place : Place) : Disk :=
  { d with entries := d.entries.filter fun e => !place.isPrefixOf e.1 }

/-- Whether a path ends in a separator. -/
def endsInSlash (p : Path) : Bool := p.text.toList.getLast? = some '/'

/-- Sets the content of the file a path denotes, creating it if its directory exists. -/
def writeBytes (d : Disk) (p : Path) (content : ByteArray) : Except Fault Disk := do
  if endsInSlash p then
    let _ ← match p.parent? with
      | some above => if above.text = "" then .ok d.workingDirectory else d.locate above
      | none => .ok []
    .error .isDirectory
  else
    let place ← d.reach true p
    match d.entry? place with
    | some .directory => .error .isDirectory
    | _ => .ok (d.put place (.file content))

/-- The place that a path's last name has, whatever is there, its directory looked up. -/
def placeOf (d : Disk) (p : Path) : Except Fault Place := do
  let above ← match p.parent? with
    | some above => if above.text = "" then .ok d.workingDirectory else d.locate above
    | none => .error .notFound
  match d.entry? above, p.fileName? with
  | some .directory, some name => .ok (above ++ [name])
  | some .directory, none => .error .notFound
  | _, _ => .error .notDirectory

/-- Creates a link with a given target. -/
def makeLink (d : Disk) (p : Path) (target : String) : Except Fault Disk := do
  let place ← d.placeOf p
  match d.entry? place with
  | none => .ok (d.put place (.link target))
  | some _ => .error .alreadyExists

/-- Takes away what a path's last name denotes, unless it is a directory. -/
def removeFile (d : Disk) (p : Path) : Except Fault Disk := do
  let place ← d.placeOf p
  match d.entry? place with
  | some .directory => .error .isDirectory
  | some _ => .ok (d.remove place)
  | none => .error .notFound

/-- Creates one directory. -/
def makeDirectory (d : Disk) (p : Path) : Except Fault Disk := do
  match d.locate p with
  | .ok _ => .error .alreadyExists
  | .error .notFound =>
    let place ← d.placeOf p
    match d.entry? place with
    | none => .ok (d.put place .directory)
    | some _ => .error .alreadyExists
  | .error fault => .error fault

/-- A change of the disk that may fail; what was done before the failure stays done. -/
abbrev Change := ExceptT Fault (StateM Disk)

/-- A change that either happens as a whole or not at all. -/
def Change.ofDisk (f : Disk → Except Fault Disk) : Change Unit := do
  match f (← get) with
  | .ok d => set d
  | .error fault => throw fault

/-- Sets the text of the file a path denotes. -/
def writeText (p : Path) (text : String) : Change Unit :=
  Change.ofDisk (·.writeBytes p text.toUTF8)

/-- Creates one directory, unless it is there. -/
def ensureDirectory (p : Path) : Change Unit := do
  match (← get).makeDirectory p with
  | .ok d => set d
  | .error fault => if (← get).isDirectory p then return else throw fault

/-- Creates a directory and, within `fuel` levels, those above it that are missing. -/
def makeDirectoriesUpTo : Nat → Path → Change Unit
  | 0, _ => throw .notFound
  | fuel + 1, p => do
    if p.text ≠ "" then
      match (← get).makeDirectory p, p.parent? with
      | .error .notFound, some above =>
        makeDirectoriesUpTo fuel above
        ensureDirectory p
      | _, _ => ensureDirectory p

/-- Creates a directory together with the missing ones above it. -/
def makeDirectories (p : Path) : Change Unit := makeDirectoriesUpTo (p.pieces.length + 1) p

end Disk

end ScriptBundle
