/-
# Mappings

A mapping is a JSON object.  What stands under a key is a list of strings, or an object with exactly
one member `values`, which is a list of strings and of objects with exactly one member `label`, a
string.  The other members of those objects are ignored, whatever and however often they are.  Both
spellings mean the same entry.  Of several members under one key of the mapping the last one stands,
but all of them must have one of the two shapes.
-/
import KeywordGrammar.Dictionary
import KeywordGrammar.Json.Nested
import KeywordGrammar.Source

namespace KeywordGrammar.Mapping

open Json

/-! ## 1. The two spellings -/

/-- The one thing that stands under `name`. -/
def only? (name : String) (members : List (String × Value)) : Option Value :=
  match members.filter (fun m => m.1 = name) with
  | [m] => some m.2
  | _ => none

/-- The string that an item of a described list of values stands for. -/
def itemText? : Value → Option String
  | .string s => some s
  | .object members =>
    match only? "label" members with
    | some v => v.string?
    | none => none
  | _ => none

/-- The strings that stand under a key, in either spelling. -/
def values? : Value → Option (List String)
  | .array items => items.mapM Value.string?
  | .object members =>
    match only? "values" members with
    | some (.array items) => items.mapM itemText?
    | _ => none
  | _ => none

/-! ## 2. Reading -/

/-- How many levels a text may nest. -/
def nestingLimit : Nat := 127

/-- What is left behind the space and the closing brace that follow, if one does. -/
def afterClosing (s : List Char) : List Char :=
  match skipSpace s with
  | [] => []
  | c :: r => if c = Brackets.object.closing then r else c :: r

/-- What stands under a key; a value of any other shape is refused when it has been read whole. -/
def valuesReader : Reader (List String) :=
  (Reader.value (nestingLimit - 1)).check (fun v r =>
    match values? v with
    | some values => .ok values
    | none => .error ⟨.notMappingValues, afterClosing r, 0⟩)

/-- The members of a mapping as they are written. -/
def membersReader : Reader (List (String × List String)) :=
  .series .object (.member valuesReader)

/-- The members of a mapping; a text that denotes anything else is refused by what it denotes. -/
def reader : Reader (List (String × List String)) where
  run s :=
    match skipSpace s with
    | [] => stop .unfinishedValue [] 0
    | c :: r =>
      if c = Brackets.object.opening then membersReader.run (c :: r)
      else if c = Brackets.list.opening then
        stop (.notAnObject (Value.array []).description) (c :: r) 0
      else
        match Reader.scalarFrom c r with
        | .error e => .error e
        | .ok (v, t) => stop (.notAnObject v.description) t 0
  shrinks := by
    intro s a r h
    have h₁ := length_skipSpace_le s
    split at h
    · simp [stop] at h
    · rename_i hs
      rw [hs] at h₁
      split at h
      · have := membersReader.shrinks h
        omega
      · split at h
        · simp [stop] at h
        · split at h <;> simp [stop] at h

/-- The entries of a mapping, in the order of their keys. -/
def read (text : String) : Except (Fault × Position) (List Entry) :=
  (readAll reader text).map (fun members =>
    (Dictionary.ofList members).entries.map (fun e => ⟨e.1, e.2⟩))

/-- The two spellings mean the same, and an extra member changes nothing. -/
example : (read "\x7b\"Skill\": [\"Easy\", \"~Skill\"]\x7d").toOption =
      some [⟨"Skill", ["Easy", "~Skill"]⟩] ∧
    (read "\x7b\"Skill\": \x7b\"x\": 1, \"values\": [\x7b\"label\": \"Easy\"\x7d, \"~Skill\"]\x7d\x7d").toOption =
      some [⟨"Skill", ["Easy", "~Skill"]⟩] := by decide +kernel

end KeywordGrammar.Mapping
