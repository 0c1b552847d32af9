import LayerCode.Publish.Manifest
import LayerCode.Text.Listing

/-!
# Files

Files and directories lie at places, which are the components that lead there from the root. Paths
are looked up component by component, from the root or from a working directory.

* `Files`, `Content`;
* `System`: what a system does that its files do not tell;
* `Files.locate`: what a path leads to;
* `Files.put`, `Files.remove`, `Files.rename`: changes of single files;
* `Files.temporary?`: the place of a new temporary file;
* `Files.write`: a file of streams, written under a temporary name first and then put in place.
-/

namespace LayerCode

open Text

/-- What a file holds: bytes, or a stream for each of some records. -/
inductive Content where
  | bytes (b : List UInt8)
  | streams (records : List Record)
deriving DecidableEq, Repr

/-- The first bytes of a file. A stream starts with a byte that no snapshot starts with. -/
def Content.start : Content → List UInt8
  | .bytes b => b
  | .streams [] => []
  | .streams _ => [0xff]

/-- Files and directories by their places, and the place of the working directory. The root is a
directory too. -/
structure Files where
  entries : List (List String × Content) := []
  directories : List (List String) := []
  home : List String := []
deriving DecidableEq, Repr

/-- Why a path leads nowhere, or a call to the system is refused. -/
inductive PathFault where
  | noEntry
  | notDirectory
  | fileExists
  | refused (text : String)
deriving DecidableEq, Repr

/-- The text of a fault. -/
def PathFault.message : PathFault → String
  | .noEntry => "no such file or directory"
  | .notDirectory => "not a directory"
  | .fileExists => "file exists"
  | .refused text => text

/-- What a path leads to. -/
inductive Place where
  | directory (place : List String)
  | file (place : List String)
deriving DecidableEq, Repr

/-- A call to the system on the way to a file of streams. -/
inductive SystemCall where
  | create
  /-- Writing the stream at a position. -/
  | write (position : Nat)
  | close
  | rename
deriving DecidableEq, Repr

/-- What a system does that its files do not tell: the numbers that it draws for temporary names,
one after the other, and the calls that it refuses, with the text of the refusal. -/
structure System where
  draws : Nat → UInt32
  refusal? : SystemCall → Option String := fun _ => none

/-- A system that refuses nothing, and whose numbers are spread out. -/
def System.calm : System := { draws := fun n => 2654435769 * (UInt32.ofNat n + 1) }

/-! ## Paths -/

/-- The components of a path, also the empty ones. -/
def splitPath : List Char → List (List Char)
  | [] => [[]]
  | c :: cs =>
    if c = '/' then [] :: splitPath cs
    else match splitPath cs with
      | [] => [[c]]
      | p :: ps => (c :: p) :: ps

/-- The components of a path as texts. -/
def components (path : String) : List String := (splitPath path.toList).map String.ofList

/-- The path starts at the root. -/
def isRooted (path : String) : Bool := path.toList.head? == some '/'

/-- The component stays where it is. -/
def isIdle (component : String) : Bool := component == "" || component == "."

/-- Puts a component on a path, whose last component is in front; two dots take one off. -/
def stack (rooted : Bool) (path : List String) (component : String) : List String :=
  if isIdle component then path
  else if component = ".." then
    match path with
    | [] => if rooted then [] else [".."]
    | last :: rest => if last = ".." then ".." :: path else rest
  else component :: path

/-- The directory of a path, without idle components. -/
def parentPath (path : String) : String :=
  let rooted := isRooted path
  let parts := ((components path).dropLast.foldl (stack rooted) []).reverse
  let joined := "/".intercalate parts
  if rooted then "/" ++ joined else if joined = "" then "." else joined

/-- The path of a temporary file in a directory, up to its number. -/
def temporaryStem (directory : String) : String :=
  (if directory = "/" then "/" else directory ++ "/") ++ ".hlsgen-"

/-- The path of a temporary file in a directory, with its number left open. -/
def temporaryIn (directory : String) : String := temporaryStem directory ++ "N"

/-- The name of a temporary file with a number. -/
def temporaryName (n : Nat) : String := ".hlsgen-" ++ n.repr

namespace Files

/-- The directories on the way to a place, from the outermost. -/
def directoriesTo (place : List String) : List (List String) :=
  (List.range (place.length - 1)).map fun n => place.take (n + 1)

/-- Where a component leads from a directory, if it is there. -/
def descend (here : List String) (component : String) : List String :=
  if isIdle component then here
  else if component = ".." then here.dropLast
  else here ++ [component]

/-- The place that a name means in a working directory. -/
def placeOf (home : List String) (name : String) : List String :=
  (components name).foldl descend (if isRooted name then [] else home)

/-- The files with the given names in a working directory; the directories they lie in are there
too. -/
def ofListIn (home : List String) (named : List (String × Content)) : Files where
  entries := named.map fun e => (placeOf home e.1, e.2)
  directories :=
    directoriesTo home ++ [home] ++ named.flatMap fun e => directoriesTo (placeOf home e.1)
  home := home

/-- A fresh working directory. Its own name is left open: it is one that no path can spell. -/
def freshHome : List String := ["tmp", "/"]

/-- The files with the given names in a fresh working directory. -/
def ofList (named : List (String × Content)) : Files := ofListIn freshHome named

/-- What the file at a place holds. -/
def content? (fs : Files) (place : List String) : Option Content := fs.entries.lookup place

/-- The names of the files in and below the working directory, in order. -/
def names (fs : Files) : List String :=
  sortOn id ((fs.entries.filter fun e => fs.home.isPrefixOf e.1).map fun e =>
    "/".intercalate (e.1.drop fs.home.length))

/-! ## Where paths lead -/

/-- What components lead to from a directory; `missing` says what to make of a last component that
is not there. -/
def walk (fs : Files) (missing : List String → Except PathFault Place) :
    List String → List String → Except PathFault Place
  | here, [] => .ok (.directory here)
  | here, c :: cs =>
    if isIdle c then walk fs missing here cs
    else if c = ".." then walk fs missing here.dropLast cs
    else if (fs.content? (here ++ [c])).isSome then
      if cs.isEmpty then .ok (.file (here ++ [c])) else .error .notDirectory
    else if fs.directories.contains (here ++ [c]) then walk fs missing (here ++ [c]) cs
    else if cs.isEmpty then missing (here ++ [c])
    else .error .noEntry

/-- What a path leads to. -/
def follow (fs : Files) (missing : List String → Except PathFault Place) (path : String) :
    Except PathFault Place :=
  if path = "" then .error .noEntry
  else fs.walk missing (if isRooted path then [] else fs.home) (components path)

/-- What a path leads to; it has to be there. -/
def locate (fs : Files) (path : String) : Except PathFault Place :=
  fs.follow (fun _ => .error .noEntry) path

/-- What a path leads to; a last component that is not there is a new file. -/
def locateNew (fs : Files) (path : String) : Except PathFault Place :=
  fs.follow (fun place => .ok (.file place)) path

/-! ## Changes -/

/-- The files without the one at a place. -/
def remove (fs : Files) (place : List String) : Files :=
  { fs with entries := fs.entries.filter fun e => e.1 != place }

/-- The files with one put in place of another, or added. -/
def put (fs : Files) (place : List String) (c : Content) : Files :=
  { fs with entries := (place, c) :: (fs.remove place).entries }

/-- Moves the file at a place to where a path leads, in place of another or as a new one. -/
def rename (fs : Files) (system : System) (source : List String) (path : String) :
    Files × Except PathFault Unit :=
  match fs.locateNew path with
  | .error fault => (fs, .error fault)
  | .ok (.directory _) => (fs, .error .fileExists)
  | .ok (.file place) =>
    match system.refusal? .rename with
    | some text => (fs, .error (.refused text))
    | none =>
      match fs.content? source with
      | none => (fs, .error .noEntry)
      | some c => ((fs.remove source).put place c, .ok ())

/-- Adds a stream for each of some records to a file that holds those of others. What a refused call
leaves of its stream is not told, since such a file is removed. -/
def writeStreams (fs : Files) (system : System) (place : List String) (written : List Record) :
    List Record → Files × Except PathFault Unit
  | [] => (fs, .ok ())
  | r :: rs =>
    match system.refusal? (.write written.length) with
    | some text => (fs, .error (.refused text))
    | none =>
      writeStreams (fs.put place (.streams (written ++ [r]))) system place (written ++ [r]) rs

/-- Why a file could not be written. -/
inductive WriteFault where
  | temporary (path : String) (fault : PathFault)
  /-- No temporary name was free. -/
  | exhausted (pattern : String)
  | stream (path : String) (fault : PathFault)
  | close (path : String) (fault : PathFault)
  | rename (source destination : String) (fault : PathFault)
deriving DecidableEq, Repr

/-- The text of a fault. -/
def WriteFault.message : WriteFault → String
  | .temporary path fault => "open " ++ path ++ ": " ++ fault.message
  | .exhausted pattern => "createtemp " ++ pattern ++ ": file already exists"
  | .stream path fault => "write " ++ path ++ ": " ++ fault.message
  | .close path fault => "close " ++ path ++ ": " ++ fault.message
  | .rename source destination fault =>
    "rename " ++ source ++ " " ++ destination ++ ": " ++ fault.message

/-- The fault of a path. -/
def WriteFault.cause : WriteFault → PathFault
  | .temporary _ fault | .stream _ fault | .close _ fault | .rename _ _ fault => fault
  | .exhausted _ => .fileExists

/-- There is a file or a directory at a place. -/
def isTaken (fs : Files) (place : List String) : Bool :=
  (fs.content? place).isSome || fs.directories.contains place

/-- The first of the places in a directory, named by the numbers that are drawn from the `n`-th on,
at which there is nothing. -/
def drawFrom (fs : Files) (system : System) (directory : List String) :
    Nat → Nat → Option (List String)
  | _, 0 => none
  | n, tries + 1 =>
    let place := directory ++ [temporaryName (system.draws n).toNat]
    if fs.isTaken place then drawFrom fs system directory (n + 1) tries else some place

/-- How many numbers are drawn for a temporary name. -/
def maxDraws : Nat := 10000

/-- The place of a new temporary file in a directory, if one is found. -/
def temporary? (fs : Files) (system : System) (directory : List String) : Option (List String) :=
  fs.drawFrom system directory 0 maxDraws

/-- Writes a stream for each record to a temporary file, and moves it to where a path leads. -/
def writeAndMove (fs : Files) (system : System) (temporary : List String) (name path : String)
    (records : List Record) : Files × Except WriteFault Unit :=
  match (fs.put temporary (.streams [])).writeStreams system temporary [] records with
  | (written, .error fault) => (written, .error (.stream name fault))
  | (written, .ok ()) =>
    match system.refusal? .close with
    | some text => (written, .error (.close name (.refused text)))
    | none =>
      let (moved, result) := written.rename system temporary path
      (moved, result.mapError (.rename name path))

/-- Writes a file by way of a temporary one, and removes what is left of that. -/
def writeVia (fs : Files) (system : System) (temporary : List String) (name path : String)
    (records : List Record) : Files × Except WriteFault Unit :=
  let (after, result) := fs.writeAndMove system temporary name path records
  (after.remove temporary, result)

/-- Writes a file with a stream for each record, under a temporary name in its directory first. -/
def write (fs : Files) (system : System) (path : String) (records : List Record) :
    Files × Except WriteFault Unit :=
  let name := temporaryIn (parentPath path)
  match fs.locate (parentPath path) with
  | .error fault => (fs, .error (.temporary name fault))
  | .ok (.file _) => (fs, .error (.temporary name .notDirectory))
  | .ok (.directory directory) =>
    match system.refusal? .create with
    | some text => (fs, .error (.temporary name (.refused text)))
    | none =>
      match fs.temporary? system directory with
      | none => (fs, .error (.exhausted (temporaryStem (parentPath path) ++ "*")))
      | some temporary => fs.writeVia system temporary name path records

end Files

end LayerCode
