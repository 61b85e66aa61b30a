/-
# Values of properties

A value of a property has several names and the characters that have it.  Names are written loosely:
case, blanks, dashes and low lines do not count, nor does an `is` in front, and what is not ASCII is
left out.
-/
import KeywordGrammar.Unicode.Spans

namespace KeywordGrammar.Unicode

/-! ## 1. Names -/

/-- A name without the `is` in front. -/
def withoutIs : List Char → List Char
  | i :: s :: rest => if i.toLower = 'i' ∧ s.toLower = 's' then rest else i :: s :: rest
  | name => name

/-- What counts of a name.  The name `isc` keeps its front, since `c` would be another one. -/
def looseName (name : List Char) : String :=
  let kept := (withoutIs name).filter (fun c =>
    decide (c.toNat < 128) && c != ' ' && c != '-' && c != '_')
  let loose := kept.map Char.toLower
  if loose == ['c'] ∧ (withoutIs name).length < name.length then "isc" else String.ofList loose

/-! ## 2. Values -/

/-- A value of a property. -/
structure PropertyValue where
  /-- What counts of its names. -/
  names : List String
  /-- The characters that have it; none if only the name is known. -/
  spans : Option Spans
  deriving DecidableEq, Repr

namespace PropertyValue

/-- The value with some names. -/
def ofNames (names : List String) (spans : Option Spans) : PropertyValue :=
  ⟨names.map (fun n => looseName n.toList), spans⟩

/-- Whether the value has a name. -/
def isNamed (v : PropertyValue) (name : String) : Bool := v.names.contains (looseName name.toList)

end PropertyValue

/-- What counts of a name is the same however it is written. -/
example : looseName "Is_Latin-1 ".toList = "latin1" ∧ looseName "isC".toList = "isc" ∧
    looseName "C".toList = "c" := by decide +kernel

end KeywordGrammar.Unicode
