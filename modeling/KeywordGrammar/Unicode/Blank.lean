/-
# Blanks

The characters with the property White_Space.  Lines of a flat list are trimmed by it, and it is the
blank that rules see between the parts of a directive.
-/
import KeywordGrammar.Unicode.Range

namespace KeywordGrammar.Unicode

/-- White_Space: the ASCII blanks, the next line, and the spaces and separators above them. -/
def blankSpans : List (Nat × Nat) := [
  (0x9, 0xD), (0x20, 0x20), (0x85, 0x85), (0xA0, 0xA0), (0x1680, 0x1680), (0x2000, 0x200A),
  (0x2028, 0x2029), (0x202F, 0x202F), (0x205F, 0x205F), (0x3000, 0x3000)]

/-- Whether `c` is a blank. -/
def isBlank (c : Char) : Bool := inSpans blankSpans c.toNat

/-- The line breaks are blanks. -/
theorem isBlank_newline : isBlank '\n' = true ∧ isBlank '\r' = true := by decide

/-- Zero-width characters are not. -/
example : isBlank '\u200b' = false ∧ isBlank '\ufeff' = false := by decide +kernel

end KeywordGrammar.Unicode
