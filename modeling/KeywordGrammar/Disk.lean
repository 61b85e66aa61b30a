/-
# Disks

A disk holds files and directories by their location, the list of names from the root down.  A path is
followed component by component, as the operating system does: every component but the last must lead
to a directory, and what is reported is the first thing that is in the way.  Nothing else is: a disk
knows no permissions.

Writing creates or replaces the one file that the path leads to and touches nothing else.
-/
import KeywordGrammar.FileSystem
import KeywordGrammar.Path

namespace KeywordGrammar

/-! ## 1. The type -/

/-- Names from the root down. -/
abbrev Location := List String

/-- Files and directories by location, and where relative paths start.  Of several entries at one
location the first counts. -/
structure Disk where
  entries : List (Location × FileEntry)
  workingDirectory : Location

namespace Disk

/-- What stands at a location; the root is always a directory. -/
def find? (d : Disk) (l : Location) : Option FileEntry :=
  if l = [] then some .directory else d.entries.lookup l

/-- Puts something at a location. -/
def put (d : Disk) (l : Location) (e : FileEntry) : Disk := { d with entries := (l, e) :: d.entries }

/-- Nothing else changes. -/
theorem find?_put_of_ne {d : Disk} {l k : Location} {e : FileEntry} (h : k ≠ l) :
    (d.put l e).find? k = d.find? k := by
  have hb : (k == l) = false := by simpa using h
  simp [find?, put, List.lookup_cons, hb]

theorem find?_put_self {d : Disk} {l : Location} {e : FileEntry} (h : l ≠ []) :
    (d.put l e).find? l = some e := by
  simp [find?, put, h]

/-! ## 2. Following a path -/

/-- Bytes that a component may have. -/
def maxNameBytes : Nat := 255

/-- Bytes that a path may have. -/
def maxPathBytes : Nat := 4095

/-- Whether a component leads to a directory that exists in any case. -/
def isDots (name : String) : Bool := name == "." || name == ".."

/-- The directory that some components lead to. -/
def walk (d : Disk) (l : Location) : List String → Except FileFault Location
  | [] => .ok l
  | name :: rest =>
    if name = "." then d.walk l rest
    else if name = ".." then d.walk l.dropLast rest
    else if maxNameBytes < name.utf8ByteSize then .error .nameTooLong
    else
      match d.find? (l ++ [name]) with
      | none => .error .notFound
      | some (.file _) => .error .notDirectory
      | some .directory => d.walk (l ++ [name]) rest

/-- The directory that a path's last component is looked up in, and that component; a path of slashes
or one that ends with dots leads to a directory itself. -/
def locate (d : Disk) (path : String) : Except FileFault (Location × String) :=
  if path.toList.contains '\x00' then .error .nulInName
  else if path.isEmpty then .error .notFound
  else if maxPathBytes < path.utf8ByteSize then .error .nameTooLong
  else
    let names := Path.components path
    match d.walk (if Path.isAbsolute path then [] else d.workingDirectory) names.dropLast with
    | .error e => .error e
    | .ok folder =>
      match names.getLast? with
      | none => .error .isDirectory
      | some name => if isDots name then .error .isDirectory else .ok (folder, name)

/-! ## 3. Reading and writing -/

/-- The bytes of the file that a path leads to. -/
def readBytes (d : Disk) (path : String) : Except FileFault ByteArray :=
  match d.locate path with
  | .error e => .error e
  | .ok (folder, name) =>
    if maxNameBytes < name.utf8ByteSize then .error .nameTooLong
    else
      match d.find? (folder ++ [name]) with
      | none => .error .notFound
      | some .directory => .error .isDirectory
      | some (.file bytes) =>
        if Path.hasTrailingSlash path then .error .notDirectory else .ok bytes

/-- The text that some bytes encode. -/
def textOf (bytes : ByteArray) : Except FileFault String :=
  match String.fromUTF8? bytes with
  | some text => .ok text
  | none => .error .notUtf8

/-- The text of the file that a path leads to. -/
def readText (d : Disk) (path : String) : Except FileFault String :=
  match d.readBytes path with
  | .ok bytes => textOf bytes
  | .error e => .error e

/-- The location of the file that a path would create or replace. -/
def target (d : Disk) (path : String) : Except FileFault Location :=
  match d.locate path with
  | .error e => .error e
  | .ok (folder, name) =>
    if Path.hasTrailingSlash path then .error .isDirectory
    else if maxNameBytes < name.utf8ByteSize then .error .nameTooLong
    else
      match d.find? (folder ++ [name]) with
      | some .directory => .error .isDirectory
      | _ => .ok (folder ++ [name])

/-- What the place is that a path would write to. -/
theorem exists_of_target {d : Disk} {path : String} {l : Location} (h : d.target path = .ok l) :
    ∃ folder name, d.locate path = .ok (folder, name) ∧ l = folder ++ [name] ∧
      Path.hasTrailingSlash path = false ∧ ¬ maxNameBytes < name.utf8ByteSize ∧
        d.find? l ≠ some .directory := by
  unfold target at h
  split at h
  · cases h
  rename_i folder name hlocate
  split at h
  · cases h
  split at h
  · cases h
  rename_i hslash hlong
  split at h
  · cases h
  rename_i hdirectory
  cases h
  exact ⟨folder, name, hlocate, rfl, by simpa using hslash, hlong, hdirectory⟩

/-- Disks with their locations as a file system. -/
def fileSystem : FileSystem Disk Location where
  find? := find?
  read := readText
  target := target
  put d l bytes := d.put l (.file bytes)
  find?_put_self bytes h := by
    obtain ⟨folder, name, -, rfl, -⟩ := exists_of_target h
    exact find?_put_self (by simp)
  find?_put_of_ne bytes _ hne := find?_put_of_ne hne

end Disk

end KeywordGrammar
