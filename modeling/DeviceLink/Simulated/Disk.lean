import DeviceLink.Agent.Files
/-!
# The simulated disk

A disk with the folders that every device has, and a working folder with files of its own. A
path is followed name by name: from the root if it starts with a slash, else from the working
folder. Two dots lead to the folder above, and at the root stay there.
-/

namespace DeviceLink.Simulated

open DeviceLink.Agent

/-- What a name in a folder stands for. -/
inductive Entry
  | file (bytes : List UInt8)
  | folder (entries : List (String × Entry))
  deriving Repr, Inhabited

/-- The names in a folder. -/
abbrev Entries := List (String × Entry)

/-- Folders in which nothing is named. -/
def emptyFolders (names : List String) : Entries := names.map (·, .folder [])

/-- A file that holds a text. -/
def textFile (text : String) : Entry := .file text.toUTF8.toList

/-- The device files. What is read from the null device is empty. -/
def devices : Entries := ("null", .file []) :: emptyFolders ["pts", "shm"]

/-- The files of the system's own settings. -/
def systemSettings : Entries :=
  [("passwd", textFile "root:x:0:0:root:/root:/bin/sh\n"), ("group", textFile "root:x:0:\n"),
    ("hosts", textFile "127.0.0.1 localhost\n"), ("hostname", textFile "device\n")] ++
    emptyFolders ["ssl"]

/-- The root folder. -/
def root : Entries :=
  [("dev", .folder devices), ("etc", .folder systemSettings),
    ("usr", .folder (emptyFolders ["bin", "include", "lib", "local", "sbin", "share", "src"])),
    ("var", .folder (emptyFolders ["cache", "lib", "local", "log", "opt", "spool", "tmp"]))] ++
    emptyFolders ["bin", "boot", "home", "lib", "media", "mnt", "opt", "proc", "root", "run",
      "sbin", "srv", "sys", "tmp"]

/-- The most octets of a name. -/
def maxName : Nat := 255

/-- The most octets of a path, with an end mark. -/
def maxPath : Nat := 4096

/-- The parts of a path between its slashes. -/
def partsFrom (part : List Char) : List Char → List String
  | [] => [String.ofList part.reverse]
  | c :: rest =>
    if c = '/' then String.ofList part.reverse :: partsFrom [] rest else partsFrom (c :: part) rest

/-- What the parts of a path lead to from a folder, where the folders above it are given from
the inside out. A file has no parts behind it, not even an empty one; a folder is no file. -/
def follow (here : Entries) (above : List Entries) : List String → Except FileFault (List UInt8)
  | [] => .error .isADirectory
  | part :: rest =>
    if part = "" ∨ part = "." then follow here above rest
    else if part = ".." then
      match above with
      | [] => follow here [] rest
      | outer :: above => follow outer above rest
    else if maxName < part.utf8ByteSize then .error .nameTooLong
    else
      match here.lookup part with
      | none => .error .notFound
      | some (.file bytes) => if rest.isEmpty then .ok bytes else .error .notADirectory
      | some (.folder entries) => follow entries (here :: above) rest

/-- A disk, by the files of its working folder. That folder lies in the one for what is
temporary, under a name that nobody knows. -/
structure Disk where
  files : List (String × List UInt8) := []
  deriving Repr

namespace Disk

/-- The working folder. -/
def working (d : Disk) : Entries := d.files.map fun (name, bytes) => (name, .file bytes)

/-- Reading a file by its path. -/
def read (d : Disk) : Files := fun path =>
  let cs := path.toList
  if '\x00' ∈ cs then .error .nulInName
  else if cs = [] then .error .notFound
  else if maxPath ≤ path.utf8ByteSize then .error .nameTooLong
  else if cs.head? = some '/' then follow root [] (partsFrom [] cs)
  else follow d.working [[], root] (partsFrom [] cs)

end Disk

end DeviceLink.Simulated
