import VariantChess.Path
import VariantChess.Text.Quoted

/-!
# Files

The text files that a program can see, as a list of paths with contents, and what has been made beside
them. A path is walked step by step from the directory in which the program runs, and every step but the
last must lead to a directory; of what lies outside, only directories above and a few below the root are
known. `Files.find` says what a path leads to, or why it leads nowhere. `Files.makeDirectories` and
`Files.append` make what is missing for a file to be written.
-/

namespace VariantChess

/-- Why a path cannot be read or written. -/
inductive FileFault where
  | missing
  | present
  | notDirectory
  | isDirectory
  | nameTooLong
deriving DecidableEq, Repr

/-- The number and the words under which systems report the fault. -/
def FileFault.report : FileFault → Nat × String
  | missing => (2, "No such file or directory")
  | present => (17, "File exists")
  | notDirectory => (20, "Not a directory")
  | isDirectory => (21, "Is a directory")
  | nameTooLong => (36, "File name too long")

/-- The message about a path that cannot be read or written. -/
def FileFault.message (fault : FileFault) (path : String) : String :=
  s!"[Errno {fault.report.1}] {fault.report.2}: {Text.quote (plainPath path)}"

/-- Where a walk has come to. -/
inductive Location where
  /-- So many directories up from the one in which the program runs, and then steps down. -/
  | near (levels : Nat) (steps : List (List Char))
  /-- Steps down from the root. -/
  | rooted (steps : List (List Char))
deriving DecidableEq, Repr

namespace Location

/-- The directory in which the program runs. -/
def here : Location := near 0 []

/-- Where the walk of a path begins. -/
def startOf (path : List Char) : Location := if path.head? == some '/' then rooted [] else here

/-- No program runs more directories below the root than this. -/
def deepest : Nat := 8

/-- The directory above; that of the root is the root. -/
def parent : Location → Location
  | near levels [] => if levels < deepest then near (levels + 1) [] else rooted []
  | near levels steps => near levels steps.dropLast
  | rooted steps => rooted steps.dropLast

/-- The place of this name in a directory. -/
def child (name : List Char) : Location → Location
  | near levels steps => near levels (steps ++ [name])
  | rooted steps => rooted (steps ++ [name])

/-- The place that a path leads to if every step up undoes the one before it. -/
def ofPath (path : List Char) : Location :=
  (pathSteps path).foldl
    (fun place step => if step = ['.', '.'] then place.parent else place.child step) (startOf path)

/-- The path of the place. -/
def path : Location → String
  | near levels steps =>
    plainPath (String.ofList (List.intercalate ['/'] (List.replicate levels ['.', '.'] ++ steps)))
  | rooted steps => String.ofList ('/' :: List.intercalate ['/'] steps)

end Location

/-- What a path leads to. -/
inductive FileKind where
  | file (text : String)
  | directory
  /-- What can be read and is always empty. -/
  | null
deriving DecidableEq, Repr

/-- Where the library keeps its own files: the names of the directory with those above it as far as they are
known, and the paths of other directories in it. -/
structure Shelf where
  place : List String := []
  directories : List String := []
deriving DecidableEq, Repr

/-- The files that can be seen. -/
structure Files where
  entries : List (String × String) := []
  /-- What has been made since: directories and empty files. -/
  made : List (Location × FileKind) := []
  shelf : Shelf := {}

namespace Files

/-- The directories below the root that every system has. -/
def commonDirectories : List String :=
  ["bin", "boot", "dev", "dev/pts", "dev/shm", "etc", "home", "lib", "media", "mnt", "opt", "proc",
   "proc/self", "root", "run", "sbin", "srv", "sys", "tmp", "usr", "usr/bin", "usr/include", "usr/lib",
   "usr/local", "usr/local/bin", "usr/local/lib", "usr/sbin", "usr/share", "usr/src", "var",
   "var/cache", "var/lib", "var/log", "var/spool", "var/tmp"]

/-- What has been at a place from the beginning. -/
def first? (files : Files) : Location → Option FileKind
  | .near _ [] | .rooted [] => some .directory
  | .rooted steps =>
    let path := String.ofList (List.intercalate ['/'] steps)
    if commonDirectories.contains path then some .directory
    else if path == "dev/null" then some .null
    else none
  | .near 0 steps =>
    match files.entries.find? fun e => pathSteps e.1.toList == steps with
    | some e => some (.file e.2)
    | none =>
      if files.entries.any fun e => (pathSteps e.1.toList).take steps.length == steps then
        some .directory
      else none
  | .near _ _ => none

/-- What is at a place. -/
def kind? (files : Files) (place : Location) : Option FileKind :=
  (files.first? place).or (files.made.lookup place)

/-- Whether a directory is at a place. -/
def isDirectory (files : Files) (place : Location) : Bool := files.kind? place == some .directory

/-- The most bytes of a name and of a path. -/
def nameLimit : Nat := 255

def pathLimit : Nat := 4095

def isTooLong (limit : Nat) (s : List Char) : Bool := limit < (String.ofList s).utf8ByteSize

/-- Walks the steps on from a place. -/
def walk (files : Files) (place : Location) : List (List Char) → Except FileFault Location
  | [] => .ok place
  | step :: steps =>
    if !files.isDirectory place then .error .notDirectory
    else if step = [] || step = ['.'] then walk files place steps
    else if step = ['.', '.'] then walk files place.parent steps
    else if isTooLong nameLimit step then .error .nameTooLong
    else if (files.kind? (place.child step)).isNone then .error .missing
    else walk files (place.child step) steps

/-- What a path leads to as it is spelled: a slash at its end makes it the path of a directory. -/
def find (files : Files) (path : String) : Except FileFault FileKind :=
  let named := (files.entries.find? fun e => plainPath e.1 == plainPath path).map (·.2)
  if path.isEmpty then .error .missing
  else if isTooLong pathLimit path.toList then .error .nameTooLong
  else
    match named.filter fun _ => endsInName path with
    | some text => .ok (.file text)
    | none =>
      match files.walk (.startOf path.toList) (path.toList.splitOn '/') with
      | .error fault => .error fault
      | .ok place =>
        match files.kind? place with
        | none => .error .missing
        | some kind => .ok kind

/-- Whether the path leads to something that can be read. -/
def canRead (files : Files) (path : String) : Bool :=
  match files.find path with
  | .ok (.file _) | .ok .null => true
  | _ => false

/-- Reads the file at the shortest spelling of a path. -/
def read (files : Files) (path : String) : Except FileFault String :=
  match files.find (plainPath path) with
  | .error fault => .error fault
  | .ok .directory => .error .isDirectory
  | .ok .null => .ok ""
  | .ok (.file text) => .ok text

/-- Whether a file is at the shortest spelling of a path; nothing that is amiss with the path keeps
this from being answered, except that it is too long. -/
def isFile (files : Files) (path : String) : Except FileFault Bool :=
  if (pathFault? path).isSome then .ok false
  else
    match files.find (plainPath path) with
    | .error .nameTooLong => .error .nameTooLong
    | .ok (.file _) => .ok true
    | _ => .ok false

/-! ### Making files -/

/-- The files with one more thing at a place. -/
def add (files : Files) (place : Location) (kind : FileKind) : Files :=
  { files with made := files.made ++ [(place, kind)] }

/-- Makes something of a name in a directory. Nothing can be made among the processes of a system. -/
def make (files : Files) (directory : Location) (name : List Char) (kind : FileKind) :
    Except FileFault Files :=
  let place := directory.child name
  if !files.isDirectory directory then
    .error (if (files.kind? directory).isNone then .missing else .notDirectory)
  else if isTooLong nameLimit name then .error .nameTooLong
  else if (files.kind? place).isSome then .error .present
  else if directory = .rooted ["proc".toList] then .error .missing
  else .ok (files.add place kind)

/-- Makes the directory of a path in one that is there. -/
def makeDirectory (files : Files) (path : String) : Except FileFault Files :=
  let steps := path.toList.splitOn '/'
  let name := steps.getLast?.getD []
  if isTooLong pathLimit path.toList then .error .nameTooLong
  else
    match files.walk (.startOf path.toList) steps.dropLast with
    | .error fault => .error fault
    | .ok directory =>
      if files.isDirectory directory && [[], ['.'], ['.', '.']].contains name then .error .present
      else files.make directory name .directory

/-- Makes a directory in one that is there, unless it is there itself. -/
def needDirectory (files : Files) (path : String) : Except FileFault Files :=
  match files.makeDirectory path, files.find path with
  | .error _, .ok .directory => .ok files
  | result, _ => result

/-- Makes the directory of a path and those above it, as far as they are missing; gives the path for which
that fails, and what has been made till then. The first argument bounds the number of steps. -/
def makeDirectoriesFrom : Nat → Files → String → Files × Except (FileFault × String) Unit
  | 0, files, path => (files, .error (.missing, path))
  | steps + 1, files, path =>
    match files.needDirectory path with
    | .ok files => (files, .ok ())
    | .error .missing =>
      match makeDirectoriesFrom steps files (parentPath path) with
      | (files, .error e) => (files, .error e)
      | (files, .ok ()) =>
        match files.needDirectory path with
        | .ok files => (files, .ok ())
        | .error fault => (files, .error (fault, path))
    | .error fault => (files, .error (fault, path))

/-- Makes the directory of a path, spelled in the shortest way, and those above it. -/
def makeDirectories (files : Files) (path : String) : Files × Except (FileFault × String) Unit :=
  makeDirectoriesFrom (path.length + 2) files path

/-- The files after the one at a place has been opened to write at its end. -/
def append (files : Files) (place : Location) : Except FileFault Files :=
  match files.kind? place, place with
  | some .directory, _ => .error .isDirectory
  | some _, _ => .ok files
  | none, .near _ steps | none, .rooted steps =>
    files.make place.parent (steps.getLast?.getD []) (.file "")

end Files

end VariantChess
