/-
# Files as a run meets them

A run reads files by their paths and may create or replace one.  Either can fail, and for reasons that
only the system knows: a permission, a mount, a limit.  So nothing is said here about which paths can
be read or opened; a fault is a value that the run goes on with.

What a file system promises is what is left behind.  Where a path could be opened to be written, its
place holds afterwards what was written and nothing else has changed; where it could not, there is no
new state at all.
-/

namespace KeywordGrammar

/-! ## 1. Faults -/

/-- Why a file cannot be read or written. -/
inductive FileFault where
  | notFound
  | notDirectory
  | isDirectory
  | nameTooLong
  | nulInName
  | notUtf8
  /-- Any other fault, as the operating system words it. -/
  | other (description : String)
  deriving DecidableEq, Repr

/-- The wording of a fault, with the operating system's number where it has one. -/
def FileFault.message : FileFault → String
  | notFound => "No such file or directory (os error 2)"
  | notDirectory => "Not a directory (os error 20)"
  | isDirectory => "Is a directory (os error 21)"
  | nameTooLong => "File name too long (os error 36)"
  | nulInName => "file name contained an unexpected NUL byte"
  | notUtf8 => "stream did not contain valid UTF-8"
  | other description => description

/-! ## 2. Reading -/

/-- A way to get the text of a file by its path. -/
abbrev FileReader := String → Except FileFault String

/-! ## 3. File systems -/

/-- What stands at a place. -/
inductive FileEntry where
  | file (bytes : ByteArray)
  | directory

/-- Files in their states, each at a place of its own. -/
structure FileSystem (State Place : Type) where
  /-- What stands at a place. -/
  find? : State → Place → Option FileEntry
  /-- What is got by reading a path. -/
  read : State → FileReader
  /-- The place that a path leads to when it is opened to be written. -/
  target : State → String → Except FileFault Place
  /-- The state in which a place holds a file with the given bytes. -/
  put : State → Place → ByteArray → State
  find?_put_self : ∀ {s path p} (bytes), target s path = .ok p →
    find? (put s p bytes) p = some (.file bytes)
  find?_put_of_ne : ∀ {s path p q} (bytes), target s path = .ok p → q ≠ p →
    find? (put s p bytes) q = find? s q

/-- Creates or replaces the file that a path leads to. -/
def FileSystem.writeText {State Place : Type} (system : FileSystem State Place) (s : State)
    (path text : String) : Except FileFault State :=
  match system.target s path with
  | .ok p => .ok (system.put s p text.toUTF8)
  | .error cause => .error cause

end KeywordGrammar
