import BeaconCeremony.Error
import BeaconCeremony.Text.Utf8

/-!
# Files

A model of the files that a contribution reads and writes: a tree of directories and files, and
devices that have no content.  Names are byte strings.  Paths are followed part by part, so that a
part that is missing, is no directory or is too long is refused where it is met.
-/

namespace BeaconCeremony

/-- What a path can lead to. -/
inductive StorageEntry
  /-- A file with its content. -/
  | file (content : Bytes)
  /-- A directory. -/
  | directory
  /-- A device that brings nothing and takes everything. -/
  | nullDevice
  /-- A device that takes nothing, with what it has been given since it was opened. -/
  | fullDevice (pending : Bytes)
deriving DecidableEq

/-- The files and directories, by the parts of their paths from the root on. -/
structure Storage where
  /-- Everything below the root. -/
  entries : List (List Bytes × StorageEntry)
  /-- The directory in which relative paths start. -/
  current : List Bytes := []
deriving DecidableEq

namespace Storage

/-- The directories that are always there. -/
def standardDirectories : List Bytes :=
  ["bin", "dev", "etc", "home", "lib", "opt", "proc", "root", "sys", "tmp", "usr", "var"].map
    Utf8.encode

/-- The standard directories, the devices, and an empty directory in which relative paths start. -/
def fresh (name : String) : Storage where
  entries := standardDirectories.map (fun directory => ([directory], .directory)) ++
    [([Utf8.encode name], .directory), (["dev", "null"].map Utf8.encode, .nullDevice),
      (["dev", "full"].map Utf8.encode, .fullDevice [])]
  current := [Utf8.encode name]

/-- What is at a place. -/
def find? (storage : Storage) (place : List Bytes) : Option StorageEntry :=
  if place = [] then some .directory else storage.entries.lookup place

/-- Puts something at a place. -/
def put (storage : Storage) (place : List Bytes) (entry : StorageEntry) : Storage :=
  if (storage.entries.lookup place).isSome then
    { storage with
      entries := storage.entries.map fun old => if old.1 = place then (place, entry) else old }
  else { storage with entries := storage.entries ++ [(place, entry)] }

/-- The number of bytes that a path may have. -/
def maxPathLength : Nat := 4095

/-- The number of bytes that a part of a path may have. -/
def maxPartLength : Nat := 255

/-- The place that the parts of a path lead to from a given one.  The last part need not be there,
but everything before it must be a directory. -/
def follow (storage : Storage) : List Bytes → List Bytes → Except SystemError (List Bytes)
  | place, [] => .ok place
  | place, part :: rest =>
    match storage.find? place with
    | none => .error .noSuchFile
    | some .directory =>
      if part = [] ∨ part = Utf8.encode "." then follow storage place rest
      else if part = Utf8.encode ".." then follow storage place.dropLast rest
      else if maxPartLength < part.length then .error .nameTooLong
      else follow storage (place ++ [part]) rest
    | some _ => .error .notDirectory

/-- The byte between the parts of a path. -/
def slash : UInt8 := 0x2f

/-- The place where a path starts, and its parts. -/
def parts (storage : Storage) (path : RawText) : Except Failure (List Bytes × List Bytes) := do
  let bytes ← path.pathBytes.mapError .notEncodable
  if bytes.contains 0 then .error (.value "embedded null byte")
  else if bytes.isEmpty then .error (.system .noSuchFile)
  else if maxPathLength < bytes.length then .error (.system .nameTooLong)
  else return (if bytes.head? = some slash then [] else storage.current, bytes.splitOn slash)

/-- The place that a path leads to. -/
def place (storage : Storage) (path : RawText) : Except Failure (List Bytes) := do
  let (start, parts) ← storage.parts path
  (storage.follow start parts).mapError .system

/-- The parts that lead to the directory above, for a path with a slash at its end. -/
def above (parts : List Bytes) : List Bytes :=
  ((parts.reverse.dropWhile (· = [])).drop 1).reverse ++ [[]]

/-- The place of a file that is to be written.  A path with a slash at its end names a directory,
which is never written. -/
def placeToWrite (storage : Storage) (path : RawText) : Except Failure (List Bytes) := do
  let (start, parts) ← storage.parts path
  if parts.getLast? = some [] then
    let _ ← (storage.follow start (above parts)).mapError Failure.system
    .error (.system .isDirectory)
  else (storage.follow start parts).mapError .system

/-- The content of a file that is read.  The full device brings zeros. -/
def content (storage : Storage) (path : RawText) : Except Failure Bytes := do
  match storage.find? (← storage.place path) with
  | none => .error (.system .noSuchFile)
  | some .directory => .error (.system .isDirectory)
  | some (.file content) => return content
  | some .nullDevice => return []
  | some (.fullDevice _) => return List.replicate 4096 0

/-- Makes a file empty, or a new empty file, to be written; returns its place. -/
def create (storage : Storage) (path : RawText) : Except Failure (List Bytes × Storage) := do
  let place ← storage.placeToWrite path
  match storage.find? place with
  | some .directory => .error (.system .isDirectory)
  | some .nullDevice => return (place, storage)
  | some (.fullDevice _) => return (place, storage.put place (.fullDevice []))
  | _ => return (place, storage.put place (.file []))

/-- Adds bytes at the end of what is at a place. -/
def append (storage : Storage) (place : List Bytes) (bytes : Bytes) : Storage :=
  match storage.find? place with
  | some (.file content) => storage.put place (.file (content ++ bytes))
  | some (.fullDevice pending) => storage.put place (.fullDevice (pending ++ bytes))
  | _ => storage

/-- Passes on what has been written; the device has no room for it. -/
def settle (storage : Storage) (place : List Bytes) : Except Failure Unit :=
  match storage.find? place with
  | some (.fullDevice (_ :: _)) => .error (.system .noSpace)
  | _ => .ok ()

end Storage
end BeaconCeremony
