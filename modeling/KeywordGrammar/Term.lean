/-
# Terms

Terms are compared in lowercase.  A raw term of a mapping may carry the exclusion mark in front,
which says that it names the entry it is listed under and is no value of it; the mark is taken off
once and kept as the term's role.
-/
import KeywordGrammar.Unicode.Lower

namespace KeywordGrammar

open Unicode

/-- The mark in front of a raw term that names the entry it is listed under. -/
def exclusionMark : Char := '~'

/-- Which side of a mapping entry a term belongs to. -/
inductive Role where
  | keyName
  | memberValue
  deriving DecidableEq, Repr

/-- A term in the form in which terms are compared. -/
structure Term where
  text : String
  role : Role
  deriving DecidableEq, Repr

namespace Term

/-- Whether a raw term carries the exclusion mark. -/
def isMarked (raw : String) : Bool := raw.toList.head? == some exclusionMark

/-- A raw term without one exclusion mark in front, in lowercase. -/
def normalize (raw : String) : Term :=
  if isMarked raw then ⟨lower (String.ofList raw.toList.tail), .keyName⟩
  else ⟨lower raw, .memberValue⟩

/-- The role records the mark. -/
theorem role_normalize (raw : String) :
    (normalize raw).role = if isMarked raw then .keyName else .memberValue := by
  unfold normalize
  split <;> rfl

/-- Only one mark is taken off. -/
example : normalize "~~Widget" = ⟨"~widget", .keyName⟩ := by decide +kernel

end Term

end KeywordGrammar
