/-
# Loading sources

A source is loaded from its file under the data directory.  Loading only reads the file's shape: a
flat list becomes its lines under the category that the file is named for, a mapping becomes its
entries under the two categories of its specification.
-/
import KeywordGrammar.Config
import KeywordGrammar.Failure
import KeywordGrammar.Source.Mapping
import KeywordGrammar.Text.Lines

namespace KeywordGrammar

/-- The category that a flat list feeds: its file name without the last extension. -/
def SourceSpec.listCategory (spec : SourceSpec) : String := Path.stem spec.file

namespace Source

/-- The source that the text of a file holds; `path` names the file in a failure. -/
def ofText (path : String) (spec : SourceSpec) (text : String) : Except Failure Source :=
  match spec.kind with
  | .list => .ok (.list spec.listCategory (Text.termLines text))
  | .mapping keyCategory memberCategory =>
    match Mapping.read text with
    | .ok entries => .ok (.mapping keyCategory memberCategory entries)
    | .error (fault, position) => .error (.json path fault position)

/-- Loads a source from its file. -/
def load (files : FileReader) (dir : DataDirectory) (spec : SourceSpec) : Except Failure Source :=
  match dir.read files spec.file with
  | .ok text => ofText (dir.join spec.file) spec text
  | .error cause => .error (.file (dir.join spec.file) cause)

end Source

end KeywordGrammar
