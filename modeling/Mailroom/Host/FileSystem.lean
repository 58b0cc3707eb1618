import Mailroom.Bytes
import Mailroom.Host.IoFault
import Mailroom.Host.Path
import Mailroom.Text.Utf8

/-! # The file system

A `FileSystem` is a value: what stands at each absolute location, a location being the list of
names below the root.  Paths are walked name by name (`FileSystem.walk`); symbolic links are
followed, at most forty of them on one walk.  A walk ends at something that exists, at a free
name in an existing directory, or in a `SystemFault`.

The operations are those that the mail system needs: reading and writing whole files, making
directories, removing a file.  A file is written in steps: it is opened, which makes or empties it,
then filled, and flushed if need be.  The medium can fail each of them (`Flaw`), and what the steps
before did stays. -/

namespace Mailroom

/-- A location: the names on the way from the root. -/
abbrev Location := List String

/-- What can stand at a location. -/
inductive Node where
  | file (content : Bytes) (mode : Nat)
  | directory
  | link (target : String)
deriving DecidableEq, Repr

/-- The stages of writing at which the medium can fail. -/
inductive WriteStage where
  /-- Nothing can be made or opened for writing. -/
  | opening
  /-- There is room for so many octets. -/
  | filling (room : Nat)
  /-- What was written cannot be flushed. -/
  | flushing
deriving DecidableEq, Repr

/-- A flaw of the medium: the stage of writing that fails, and the fault it fails with. -/
structure Flaw where
  stage : WriteStage
  fault : IoFault
deriving DecidableEq, Repr

/-- What stands at each location, and the flaws of the medium.  The root is always a directory. -/
structure FileSystem where
  entries : List (Location × Node) := []
  flaws : List (Location × Flaw) := []
deriving DecidableEq, Repr

/-- A file that was opened for writing. -/
structure OpenFile where
  loc : Location
  mode : Nat
deriving DecidableEq, Repr

/-- Where a walk ends. -/
inductive Place where
  | taken (loc : Location) (node : Node)
  | free (loc : Location)
deriving DecidableEq, Repr

namespace FileSystem

/-! ### Locations -/

/-- What stands at a location. -/
def node? (fs : FileSystem) (loc : Location) : Option Node :=
  if loc = [] then some .directory else (fs.entries.find? (·.1 == loc)).map Prod.snd

/-- Puts something at a location, in place of what was there. -/
def put (fs : FileSystem) (loc : Location) (node : Node) : FileSystem :=
  { fs with entries := (loc, node) :: fs.entries.filter (·.1 != loc) }

/-- Frees a location. -/
def erase (fs : FileSystem) (loc : Location) : FileSystem :=
  { fs with entries := fs.entries.filter (·.1 != loc) }

/-- Frees a location and everything below it. -/
def eraseTree (fs : FileSystem) (loc : Location) : FileSystem :=
  { fs with entries := fs.entries.filter fun e => !loc.isPrefixOf e.1 }

/-- Everything below a location, with the way from there. -/
def below (fs : FileSystem) (loc : Location) : List (Location × Node) :=
  fs.entries.filterMap fun (place, node) =>
    if loc.isPrefixOf place && place != loc then some (place.drop loc.length, node) else none

/-- The flaw of the medium at a location, if it has one there. -/
def flaw? (fs : FileSystem) (loc : Location) : Option Flaw :=
  (fs.flaws.find? (·.1 == loc)).map Prod.snd

/-! ### Walks -/

/-- The longest name that a directory can hold, in octets. -/
def maxNameLength : Nat := 255

/-- The longest path that a walk accepts, in octets. -/
def maxPathLength : Nat := 4095

/-- How many symbolic links one walk follows. -/
def maxLinks : Nat := 40

/-- Follows the segments of a path from the directory `dir`.  `links` more symbolic links may be
followed; a link at the very end is followed only if `follow` holds. -/
def walk (fs : FileSystem) (follow : Bool) (links : Nat) (dir : Location) :
    List String → Except SystemFault Place
  | [] => .ok (.taken dir .directory)
  | name :: rest =>
    if name = "." then walk fs follow links dir rest
    else if name = ".." then walk fs follow links dir.dropLast rest
    else if maxNameLength < (utf8 name).length then .error .nameTooLong
    else
      let loc := dir ++ [name]
      match fs.node? loc with
      | none => if rest.isEmpty then .ok (.free loc) else .error .notFound
      | some .directory => walk fs follow links loc rest
      | some (.file content mode) =>
        if rest.isEmpty then .ok (.taken loc (.file content mode)) else .error .notDirectory
      | some (.link target) =>
        if rest.isEmpty && !follow then .ok (.taken loc (.link target))
        else match links with
          | 0 => .error .tooManyLinks
          | links + 1 =>
            walk fs follow links (if Path.isAbsolute target then [] else dir)
              (Path.segments target ++ rest)
termination_by segments => (links, segments.length)

/-- Walks a path from the root. -/
def lookup (fs : FileSystem) (follow : Bool) (path : String) : Except IoFault Place :=
  if path.toList.any (· == '\x00') then .error .nulInName
  else if path.isEmpty then .error (.system .notFound)
  else if maxPathLength < (utf8 path).length then .error (.system .nameTooLong)
  else (fs.walk follow maxLinks [] (Path.segments path)).mapError .system

/-! ### Files -/

/-- The content of a file. -/
def readFile (fs : FileSystem) (path : String) : Except IoFault Bytes := do
  match ← fs.lookup true path with
  | .taken _ (.file content _) => return content
  | .taken _ _ => throw (.system .isDirectory)
  | .free _ => throw (.system .notFound)

/-- The content of a file that holds text. -/
def readText (fs : FileSystem) (path : String) : Except IoFault String := do
  match decodeUtf8? (← fs.readFile path) with
  | some text => return text
  | none => throw .notText

/-- The size that the file system states for a directory. -/
def directorySize : Nat := 4096

/-- The size of a file or directory in octets. -/
def sizeOf (fs : FileSystem) (path : String) : Except IoFault Nat := do
  match ← fs.lookup true path with
  | .taken _ (.file content _) => return content.length
  | .taken _ _ => return directorySize
  | .free _ => throw (.system .notFound)

/-- The path without the slashes at its end. -/
def trimSlashes (path : String) : String :=
  String.ofList ((path.toList.reverse.dropWhile (· == '/')).reverse)

/-- The file that writing to a path fills.  An existing file keeps its mode, a new one gets `mode`.
A path that ends in a slash names a directory and cannot be written. -/
def fileToWrite (fs : FileSystem) (path : String) (mode : Nat) : Except IoFault OpenFile := do
  if Path.endsInSlash path then
    let _ ← fs.lookup false (trimSlashes path)
    throw (.system .isDirectory)
  match ← fs.lookup true path with
  | .taken loc (.file _ old) => return ⟨loc, old⟩
  | .taken _ _ => throw (.system .isDirectory)
  | .free loc => return ⟨loc, mode⟩

/-- Opens a file for writing: it is made or emptied. -/
def openFile (fs : FileSystem) (path : String) (mode : Nat) :
    Except IoFault OpenFile × FileSystem :=
  match fs.fileToWrite path mode with
  | .error fault => (.error fault, fs)
  | .ok file =>
    match fs.flaw? file.loc with
    | some ⟨.opening, fault⟩ => (.error fault, fs)
    | _ => (.ok file, fs.put file.loc (.file [] file.mode))

/-- Fills a file that was opened.  Without room for the whole content, the octets that fit are
written. -/
def fillFile (fs : FileSystem) (file : OpenFile) (content : Bytes) :
    Except IoFault Unit × FileSystem :=
  match fs.flaw? file.loc with
  | some ⟨.filling room, fault⟩ =>
    if room < content.length then
      (.error fault, fs.put file.loc (.file (content.take room) file.mode))
    else (.ok (), fs.put file.loc (.file content file.mode))
  | _ => (.ok (), fs.put file.loc (.file content file.mode))

/-- Flushes a file that was filled. -/
def flushFile (fs : FileSystem) (file : OpenFile) : Except IoFault Unit :=
  match fs.flaw? file.loc with
  | some ⟨.flushing, fault⟩ => .error fault
  | _ => .ok ()

/-- Opens a file and fills it.  What was written stays, also if the rest cannot be written. -/
def storeFile (fs : FileSystem) (path : String) (content : Bytes) (mode : Nat) :
    Except IoFault OpenFile × FileSystem :=
  match fs.openFile path mode with
  | (.error fault, opened) => (.error fault, opened)
  | (.ok file, opened) =>
    match opened.fillFile file content with
    | (.error fault, filled) => (.error fault, filled)
    | (.ok (), filled) => (.ok file, filled)

/-- The file system with a file that was written whole. -/
def writeFile (fs : FileSystem) (path : String) (content : Bytes) (mode : Nat) :
    Except IoFault FileSystem :=
  match fs.storeFile path content mode with
  | (.ok _, after) => .ok after
  | (.error fault, _) => .error fault

/-- The mode of files that anybody may read. -/
def publicMode : Nat := 0o644

/-- The mode of files that only their owner may read. -/
def privateMode : Nat := 0o600

/-- Removes a file or a symbolic link. -/
def removeFile (fs : FileSystem) (path : String) : Except IoFault FileSystem := do
  match ← fs.lookup false path with
  | .taken _ .directory => throw (.system .isDirectory)
  | .taken loc _ => return fs.erase loc
  | .free _ => throw (.system .notFound)

/-- Makes a symbolic link at a free name. -/
def makeLink (fs : FileSystem) (path target : String) : Except IoFault FileSystem := do
  match ← fs.lookup false path with
  | .taken _ _ => throw (.system .alreadyExists)
  | .free loc => return fs.put loc (.link target)

/-- The mode of a file. -/
def mode? (fs : FileSystem) (path : String) : Option Nat :=
  match fs.lookup true path with
  | .ok (.taken _ (.file _ mode)) => some mode
  | _ => none

/-! ### Directories -/

/-- Whether a path leads to a directory. -/
def isDirectory (fs : FileSystem) (path : String) : Bool :=
  match fs.lookup true path with
  | .ok (.taken _ .directory) => true
  | _ => false

/-- Whether a path leads to anything. -/
def isTaken (fs : FileSystem) (path : String) : Bool :=
  match fs.lookup true path with
  | .ok (.taken _ _) => true
  | _ => false

/-- Where a directory lies. -/
def directory? (fs : FileSystem) (path : String) : Option Location :=
  match fs.lookup true path with
  | .ok (.taken loc .directory) => some loc
  | _ => none

/-- The files in a directory with their content. -/
def filesIn (fs : FileSystem) (path : String) : List (Location × Bytes) :=
  match fs.directory? path with
  | none => []
  | some loc => (fs.below loc).filterMap fun (place, node) =>
    match node with
    | .file content _ => if place.length = 1 then some (loc ++ place, content) else none
    | _ => none

/-- Makes one directory at a free name. -/
def makeDirectory (fs : FileSystem) (path : String) : Except IoFault FileSystem := do
  match ← fs.lookup false (if (trimSlashes path).isEmpty then path else trimSlashes path) with
  | .taken _ _ => throw (.system .alreadyExists)
  | .free loc =>
    match fs.flaw? loc with
    | some ⟨.opening, fault⟩ => throw fault
    | _ => return fs.put loc .directory

/-- Makes one directory; one that is there already will do. -/
def ensureDirectory (fs : FileSystem) (path : String) : Except IoFault Unit × FileSystem :=
  match fs.makeDirectory path with
  | .ok made => (.ok (), made)
  | .error fault => (if fs.isDirectory path then .ok () else .error fault, fs)

/-- Makes a directory, if need be after the one that holds it, which `above` makes.  What was made
stays, also if a directory further down cannot be made. -/
def makeDirectoryAfter (above : FileSystem → String → Except IoFault Unit × FileSystem)
    (fs : FileSystem) (path : String) : Except IoFault Unit × FileSystem :=
  if path.isEmpty then (.ok (), fs)
  else match fs.makeDirectory path, Path.parent? path with
    | .error (.system .notFound), some parent =>
      match above fs parent with
      | (.ok (), made) => made.ensureDirectory path
      | (.error fault, made) => (.error fault, made)
    | .error (.system .notFound), none => (.error (.other "failed to create whole tree"), fs)
    | _, _ => fs.ensureDirectory path

/-- Makes a directory and those above it that are missing, `depth` levels up at most. -/
def makeDirectoriesFrom : (depth : Nat) → FileSystem → String → Except IoFault Unit × FileSystem
  | 0 => makeDirectoryAfter fun fs _ => (.error (.other "failed to create whole tree"), fs)
  | depth + 1 => makeDirectoryAfter (makeDirectoriesFrom depth)

/-- Makes a directory and those above it that are missing. -/
def makeDirectories (fs : FileSystem) (path : String) : Except IoFault Unit × FileSystem :=
  makeDirectoriesFrom path.length fs path

/-! ### Whole trees -/

/-- Puts something at a path; missing directories above it are made. -/
def install (fs : FileSystem) (path : String) : Node → Except IoFault FileSystem
  | .directory => .ok (fs.makeDirectories path).2
  | .file content mode => (above fs).writeFile path content mode
  | .link target => (above fs).makeLink path target
where
  /-- The file system with the directory that holds the path. -/
  above (fs : FileSystem) : FileSystem :=
    (Path.parent? path).elim fs fun parent => (fs.makeDirectories parent).2

/-- Everything below a location by its path from there, in the order of the paths. -/
def tree (fs : FileSystem) (loc : Location) : List (String × Node) :=
  ((fs.below loc).map fun (place, node) => ("/".intercalate place, node)).mergeSort
    fun a b => a.1 ≤ b.1

end FileSystem

end Mailroom
