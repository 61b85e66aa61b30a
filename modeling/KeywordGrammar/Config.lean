/-
# Configuration

Everything that decides the shape of a grammar is fixed in its configuration: its identity, the
sources and the categories they feed, hand-picked extra terms, and the precedence order.  Only the
data directory varies from run to run.
-/
import KeywordGrammar.FileSystem
import KeywordGrammar.Path
import KeywordGrammar.Precedence

namespace KeywordGrammar

/-! ## 1. Where the data is -/

/-- The directory that the keyword data is read from, by its path. -/
structure DataDirectory where
  folder ::
  path : String
  deriving DecidableEq, Repr

namespace DataDirectory

/-- The path of a file in the directory. -/
def join (dir : DataDirectory) (file : String) : String := Path.join dir.path file

/-- The text of a file in the directory. -/
def read (files : FileReader) (dir : DataDirectory) (file : String) : Except FileFault String :=
  files (dir.join file)

end DataDirectory

/-! ## 2. The configuration -/

/-- Terms that are routed to a category by hand. -/
structure ExtraTerms where
  category : String
  terms : List String
  deriving DecidableEq, Repr

/-- What decides the shape of a grammar. -/
structure Config where
  name : String
  scopeName : String
  schema : Option String
  dataDirectory : DataDirectory
  sources : List SourceSpec
  extraTerms : List ExtraTerms
  precedence : Precedence
  deriving DecidableEq, Repr

/-! ## 3. The grammar of population files -/

/-- The schema that the document names. -/
def schemaUrl : String :=
  "https://raw.githubusercontent.com/martinring/tmlanguage/master/tmlanguage.json"

/-- The category of words that control the flow of a file. -/
def keywordControl : String := "keyword.control"

/-- The category of names that have a fixed set of values. -/
def enumType : String := "entity.name.type.enum"

/-- The category of all other keywords. -/
def keyword : String := "keyword"

/-- The category of the values of such names. -/
def enumMember : String := "variable.other.enummember"

/-- The configuration for population files, with its data in the given place. -/
def Config.popfile (dataDirectory : DataDirectory) : Config where
  name := "Popfile"
  scopeName := "source.popfile"
  schema := some schemaUrl
  dataDirectory := dataDirectory
  sources := [
    ⟨keywordControl ++ ".txt", .list⟩,
    ⟨"values.json", .mapping enumType enumMember⟩,
    ⟨"keys.json", .mapping keyword keyword⟩]
  extraTerms := [
    ⟨enumType, ["where"]⟩,
    ⟨keyword, ["ItemName"]⟩,
    ⟨enumMember, ["spawnbot"]⟩]
  precedence := ⟨[keywordControl, enumType, keyword, enumMember]⟩

end KeywordGrammar
