import MoteTrial.Failure

/-! # Files of a run

A small file store: files and folders below a working folder, or below the root if a path starts
there. It refuses what a file system refuses (a missing folder on the way, a file where a folder is
needed, a folder where a file is needed, a name that is too long, a write without space for it) and
names the path in the refusal.
-/

namespace MoteTrial

/-- What stands at a place of the store. -/
inductive Node where
  | file (content : ByteArray)
  | folder
  deriving Inhabited

/-- A path as its names. -/
abbrev Path := List String

/-- The store: every place below the working folder that is taken. It may be out of space for some
writes and not for others, since what else is on the medium comes and goes. -/
structure Disk where
  entries : List (Path × Node) := []
  /-- Whether there is no space for a write, by the number of writes before it. -/
  full : Nat → Bool := fun _ => false
  writes : Nat := 0

instance : Inhabited Disk := ⟨{}⟩

/-- An operation on the store. What it did before a failure stays done. -/
abbrev DiskM := EStateM Failure Disk

namespace Path

/-- The most bytes that a name may have. -/
def nameLimit : Nat := 255

/-- The most bytes that a path may have. -/
def pathLimit : Nat := 4095

/-- Splits characters at slashes. -/
def splitSlash : List Char → List Char × List (List Char)
  | [] => ([], [])
  | c :: cs =>
    let (name, rest) := splitSlash cs
    if c = '/' then ([], name :: rest) else (c :: name, rest)

/-- The names in a path, empty ones included. -/
def names (text : String) : Path :=
  let (first, rest) := splitSlash text.toList
  (first :: rest).map String.ofList

/-- Whether a name stands for the folder that it is looked up in. -/
def isHere (name : String) : Bool := name == "" || name == "."

/-- Where a path starts: at the working folder, or at the root. -/
def start (text : String) : Path := if text.toList.head? = some '/' then ["/"] else []

/-- Where a path starts and the names in it that lead anywhere. -/
def normal (text : String) : Path := start text ++ (names text).filter fun name => !isHere name

/-- The text of a path; the working folder itself is a dot. -/
def render : Path → String
  | [] => "."
  | "/" :: path => "/" ++ "/".intercalate path
  | path => "/".intercalate path

/-- The folder that a place is in; the working folder and the root are in themselves. -/
def parent (place : Path) : Path := if place = ["/"] then place else place.dropLast

end Path

namespace Disk

/-- What stands at a place; the working folder itself and the root are folders. -/
def node? (d : Disk) (place : Path) : Option Node :=
  if place = [] ∨ place = ["/"] then some .folder else d.entries.lookup place

/-- Whether a folder stands at a place. -/
def isFolder (d : Disk) (place : Path) : Bool :=
  match d.node? place with
  | some .folder => true
  | _ => false

/-- Puts a node at a place, instead of what may stand there. -/
def put (d : Disk) (place : Path) (node : Node) : Disk :=
  if (d.entries.lookup place).isSome then
    { d with entries := d.entries.map fun entry => if entry.1 = place then (place, node) else entry }
  else { d with entries := d.entries ++ [(place, node)] }

/-- Takes away what stands at a place. -/
def remove (d : Disk) (place : Path) : Disk :=
  { d with entries := d.entries.filter fun entry => entry.1 != place }

/-- Follows names from a place. Every name is looked up in a folder. -/
def walk (d : Disk) (place : Path) : Path → Except DiskFault Path
  | [] => .ok place
  | name :: rest =>
    match d.node? place with
    | none => .error .missing
    | some (.file _) => .error .notDirectory
    | some .folder =>
      if Path.nameLimit < name.utf8ByteSize then .error .nameTooLong
      else if Path.isHere name then d.walk place rest
      else if name = ".." then d.walk place.parent rest
      else d.walk (place ++ [name]) rest

/-- The place that a path leads to. -/
def locate (d : Disk) (text : String) : Except DiskFault Path :=
  if text = "" then .error .missing
  else if Path.pathLimit < text.utf8ByteSize then .error .nameTooLong
  else d.walk (Path.start text) (Path.names text)

/-- Runs a step that may be refused, naming the path in the refusal. -/
def refused {α : Type} (text : String) : Except DiskFault α → DiskM α
  | .ok a => pure a
  | .error fault => throw (.disk fault text)

/-- The place that a path leads to. -/
def place (text : String) : DiskM Path := do
  if text.toList.contains (Char.ofNat 0) then throw .zeroInPath
  refused text ((← get).locate text)

/-- The content of a file. -/
def read (text : String) : DiskM ByteArray := do
  let location ← place text
  match (← get).node? location with
  | none => throw (.disk .missing text)
  | some .folder => throw (.disk .isDirectory text)
  | some (.file content) => return content

/-- Takes space for a write, of which the path is named if there is none. -/
def takeSpace (text : String) : DiskM Unit := do
  let d ← get
  set { d with writes := d.writes + 1 }
  if d.full d.writes then throw (.disk .full text)

/-- Changes the content of a file, which is made if it is missing. -/
def update (text : String) (f : ByteArray → ByteArray) : DiskM Unit := do
  let location ← place text
  takeSpace text
  match (← get).node? location with
  | some .folder => throw (.disk .isDirectory text)
  | some (.file content) => modify (·.put location (.file (f content)))
  | none => modify (·.put location (.file (f .empty)))

/-- Writes a file anew. -/
def write (text content : String) : DiskM Unit := update text fun _ => content.toUTF8

/-- Writes to the end of a file. -/
def append (text content : String) : DiskM Unit := update text (· ++ content.toUTF8)

/-- Makes one folder. -/
def makeFolder (path : Path) : DiskM Unit := do
  let text := path.render
  let location ← place text
  match (← get).node? location with
  | some _ => throw (.disk .occupied text)
  | none => modify (·.put location .folder)

/-- Carries out `m`; a failure counts as success if the path is a folder nevertheless. -/
def unlessFolder (path : Path) (m : DiskM Unit) : DiskM Unit := fun d =>
  match m d with
  | .ok _ d => .ok () d
  | .error f d =>
    match d.locate path.render with
    | .ok location => if d.isFolder location then .ok () d else .error f d
    | .error _ => .error f d

/-- Makes a folder and the folders on the way to it; the path is given from its end. -/
def makeFoldersFrom : List String → DiskM Unit
  | [] => pure ()
  | name :: parents => fun d =>
    let path := (name :: parents).reverse
    match makeFolder path d with
    | .ok _ d => .ok () d
    | .error (.disk .missing _) d =>
      (do makeFoldersFrom parents
          unlessFolder path (makeFolder path)) d
    | .error f d => unlessFolder path (throw f) d

/-- Makes a folder and the folders on the way to it, unless it is there. -/
def makeFolders (path : Path) : DiskM Unit := makeFoldersFrom path.reverse

end Disk

end MoteTrial
