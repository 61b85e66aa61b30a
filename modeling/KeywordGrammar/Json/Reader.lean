/-
# Reading JSON

A reader takes the front of a text and leaves the rest, which is strictly shorter: this is part of
the type, so that lists and objects of any length are read by recursion on what is left.  Nested
values are read by recursion on how deep they may still nest.  The readers for single values are in
`Json/Scalar` and `Json/Numeral`, those for nested ones in `Json/Nested`.
-/
import KeywordGrammar.Json.Fault

namespace KeywordGrammar.Json

/-! ## 1. Outcomes -/

/-- What was read with the rest of the text, or why not. -/
abbrev Outcome (α : Type) := Except Stop (α × List Char)

/-- Stops in front of `rest`, with `ahead` bytes of it counted as read. -/
def stop {α : Type} (fault : Fault) (rest : List Char) (ahead : Nat) : Outcome α :=
  .error ⟨fault, rest, ahead⟩

/-- Reads something from the front of a text, and at least one character. -/
structure Reader (α : Type) where
  run : List Char → Outcome α
  shrinks : ∀ {s a r}, run s = .ok (a, r) → r.length < s.length

/-- The characters that may stand between the parts of a text. -/
def isSpace (c : Char) : Bool := c == ' ' || c == '\t' || c == '\n' || c == '\r'

/-- The text from its first part on. -/
def skipSpace (s : List Char) : List Char := s.dropWhile isSpace

theorem length_skipSpace_le (s : List Char) : (skipSpace s).length ≤ s.length :=
  (List.dropWhile_sublist isSpace).length_le

namespace Reader

variable {α β : Type}

/-- Reads and converts. -/
def map (f : α → β) (reader : Reader α) : Reader β where
  run s :=
    match reader.run s with
    | .ok (a, r) => .ok (f a, r)
    | .error e => .error e
  shrinks := by
    intro s b r h
    split at h
    · rename_i a r' ha
      simp only [Except.ok.injEq, Prod.mk.injEq] at h
      exact h.2 ▸ reader.shrinks ha
    · exact absurd h (by simp)

/-- Reads and then converts, or stops where the rest of the text tells. -/
def check (reader : Reader α) (f : α → List Char → Except Stop β) : Reader β where
  run s :=
    match reader.run s with
    | .ok (a, r) =>
      match f a r with
      | .ok b => .ok (b, r)
      | .error e => .error e
    | .error e => .error e
  shrinks := by
    intro s b r h
    split at h
    · rename_i a r' ha
      split at h
      · simp only [Except.ok.injEq, Prod.mk.injEq] at h
        exact h.2 ▸ reader.shrinks ha
      · exact absurd h (by simp)
    · exact absurd h (by simp)

/-- Reads nothing and stops in front of the next character. -/
def refuse (fault : Fault) : Reader α where
  run s := stop fault s 1
  shrinks := by
    intro s a r h
    exact absurd h (by simp [stop])

end Reader

end KeywordGrammar.Json
