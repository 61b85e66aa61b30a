/-
# Spans of characters as bytes

In UTF-8 a character is one to four bytes.  The characters of a span are those whose bytes lie, one by
one, in the spans of one of several sequences; the sequences are in the order of the characters.
-/
import KeywordGrammar.Unicode.Spans

namespace KeywordGrammar.Unicode

/-- Spans that the bytes of a character lie in, one by one. -/
abbrev ByteSpans := List (Nat × Nat)

/-- What every byte but the first has in front of its digit. -/
def followMark : Nat := 0x80

/-- How many characters some bytes that follow can tell apart; each holds a digit to base 64. -/
def blockSize : Nat → Nat
  | 0 => 1
  | follows + 1 => 64 * blockSize follows

/-- The sequences for the numbers from `lo` to `hi`, written with a first byte that has a mark in front
of its digit and with so many that follow. -/
def spansBetween (mark : Nat) : Nat → Nat → Nat → List ByteSpans
  | 0, lo, hi => [[(mark + lo, mark + hi)]]
  | follows + 1, lo, hi =>
    let size := blockSize (follows + 1)
    let under (digit lo hi : Nat) : List ByteSpans :=
      (spansBetween followMark follows lo hi).map ((mark + digit, mark + digit) :: ·)
    let first := lo / size
    let last := hi / size
    if first = last then under first (lo % size) (hi % size)
    else
      let cutsFirst := decide (lo % size ≠ 0)
      let cutsLast := decide (hi % size ≠ size - 1)
      let front := if cutsFirst then first + 1 else first
      let behind := if cutsLast then last else last + 1
      (if cutsFirst then under first (lo % size) (size - 1) else []) ++
        (if front < behind then
          [(mark + front, mark + behind - 1) ::
            List.replicate (follows + 1) (followMark, followMark + 63)]
        else []) ++
        (if cutsLast then under last 0 (hi % size) else [])

/-- The characters with so many bytes behind the first one: the first and the last of them, and what the
first byte has in front of its digit. -/
def encodedLengths : List (Nat × Nat × Nat × Nat) :=
  [(0, 0, 0x7F, 0), (1, 0x80, 0x7FF, 0xC0), (2, 0x800, 0xFFFF, 0xE0), (3, 0x10000, 0x10FFFF, 0xF0)]

/-- The sequences for the characters of a span. -/
def byteSpans (span : Nat × Nat) : List ByteSpans :=
  encodedLengths.flatMap (fun (follows, lo, hi, mark) =>
    if max lo span.1 ≤ min hi span.2 then
      spansBetween mark follows (max lo span.1) (min hi span.2)
    else [])

/-- The letters from é to the Cyrillic а need three sequences, of two bytes each. -/
example : byteSpans (0xE9, 0x430) = [[(0xC3, 0xC3), (0xA9, 0xBF)], [(0xC4, 0xCF), (0x80, 0xBF)],
    [(0xD0, 0xD0), (0x80, 0xB0)]] := by decide +kernel

end KeywordGrammar.Unicode
