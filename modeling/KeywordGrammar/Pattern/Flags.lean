/-
# Flags

A pattern may switch flags on and off: rules use those for letters in both cases and for blanks between
the parts.  They are written as letters, and those behind a minus are switched off.
-/
import KeywordGrammar.Pattern.Cursor
import KeywordGrammar.Pattern.Fault

namespace KeywordGrammar.Pattern

/-! ## 1. The type -/

/-- What the flags say at a place of a pattern. -/
structure Flags where
  /-- Whether letters stand for both cases. -/
  caseless : Bool
  /-- Whether lines have a start and an end of their own. -/
  multiLine : Bool
  /-- Whether a point stands for a line feed too. -/
  dotAll : Bool
  /-- Whether counts ask for as few repetitions as possible unless they are marked. -/
  swapGreed : Bool
  /-- Whether characters are those of Unicode, not only of ASCII. -/
  unicode : Bool
  /-- Whether a carriage return ends a line too. -/
  crlf : Bool
  /-- Whether blanks and comments may stand between the parts. -/
  verbose : Bool
  deriving DecidableEq, Repr

namespace Flags

/-- The flags at the front of a pattern. -/
def start : Flags := ⟨false, false, false, false, true, false, false⟩

/-- Switches one flag. -/
def switch (f : Flags) (letter : Char) (on : Bool) : Flags :=
  if letter = 'i' then { f with caseless := on }
  else if letter = 'm' then { f with multiLine := on }
  else if letter = 's' then { f with dotAll := on }
  else if letter = 'U' then { f with swapGreed := on }
  else if letter = 'u' then { f with unicode := on }
  else if letter = 'R' then { f with crlf := on }
  else if letter = 'x' then { f with verbose := on }
  else f

/-- Switches the flags that some letters name, off behind a minus. -/
def apply (f : Flags) (on : Bool) : List Char → Flags
  | [] => f
  | c :: rest => if c = '-' then f.apply false rest else (f.switch c on).apply on rest

/-- Whether only flags that rules use differ from those at the front. -/
def isPlain (f : Flags) : Bool := !f.multiLine && !f.dotAll && !f.swapGreed && f.unicode && !f.crlf

end Flags

/-! ## 2. The written form -/

/-- The letters that name a flag. -/
def isFlag (c : Char) : Bool := "imsUuRx".toList.contains c

/-- Reads flags up to a colon or a closing parenthesis; `seen` are the letters before this place with
their places, the last first. -/
def flagsFrom (seen : List (Char × Nat)) (place : Nat) :
    List Char → Except SyntaxFault (List Char × Cursor)
  | [] => faultIn .unfinishedFlags place place
  | c :: rest =>
    if c = ':' ∨ c = ')' then
      match seen with
      | ('-', minus) :: _ => faultAt .danglingNegation minus
      | _ => .ok (seen.reverse.map Prod.fst, ⟨place, c :: rest⟩)
    else if c = '-' ∨ isFlag c then
      match seen.lookup c with
      | some earlier =>
        let cause := if c = '-' then SyntaxCause.repeatedNegation else .repeatedFlag
        .error ⟨cause, ⟨place, place + 1⟩, some ⟨earlier, earlier + 1⟩⟩
      | none => flagsFrom ((c, place) :: seen) (place + 1) rest
    else faultAt .unknownFlag place

/-- What stands behind the minus is switched off. -/
example : (Flags.start.apply true "is-xu".toList).isPlain = false ∧
    Flags.start.apply true "i-x".toList = { Flags.start with caseless := true } := by decide +kernel

end KeywordGrammar.Pattern
