/-
# Sources

A source is one file of keyword data, read but not yet interpreted: either a flat list, all of whose
lines belong to one category, or a mapping, whose entries feed a category of keys and a category of
members.
-/

namespace KeywordGrammar

/-- One entry of a mapping: a key with its values as they are written. -/
structure Entry where
  key : String
  values : List String
  deriving DecidableEq, Repr

/-- The raw content of one file, with the categories it feeds. -/
inductive Source where
  | list (category : String) (lines : List String)
  | mapping (keyCategory memberCategory : String) (entries : List Entry)
  deriving DecidableEq, Repr

namespace Source

/-- Number of raw terms: lines, or keys and values. -/
def size : Source → Nat
  | list _ lines => lines.length
  | mapping _ _ entries => (entries.flatMap (fun e => e.key :: e.values)).length

/-- Whether the source holds no raw term. -/
def isEmpty (s : Source) : Bool := s.size == 0

end Source

/-- How a file is read, and the categories that a mapping feeds. -/
inductive SourceKind where
  | list
  | mapping (keyCategory memberCategory : String)
  deriving DecidableEq, Repr

/-- A file of keyword data, named relative to the data directory. -/
structure SourceSpec where
  file : String
  kind : SourceKind
  deriving DecidableEq, Repr

end KeywordGrammar
