/-
# The characters of written sets

Flags decide which characters a written set holds: letters may stand for both cases, and only ASCII may
be meant.  Every set that is searched for has to be one of whole characters, so what is left of ASCII
when some of it is taken away is none.
-/
import KeywordGrammar.Pattern.Brackets
import KeywordGrammar.Pattern.Flags
import KeywordGrammar.Unicode.Property

namespace KeywordGrammar.Pattern

open Unicode

/-! ## 1. Sets with a name -/

/-- The characters of a set that has a name inside brackets. -/
def AsciiSet.spans : AsciiSet → Spans
  | alnum => [(0x30, 0x39), (0x41, 0x5A), (0x61, 0x7A)]
  | alpha => [(0x41, 0x5A), (0x61, 0x7A)]
  | ascii => [(0, 0x7F)]
  | blank => [(9, 9), (0x20, 0x20)]
  | cntrl => [(0, 0x1F), (0x7F, 0x7F)]
  | digit => [(0x30, 0x39)]
  | graph => [(0x21, 0x7E)]
  | lower => [(0x61, 0x7A)]
  | print => [(0x20, 0x7E)]
  | punct => [(0x21, 0x2F), (0x3A, 0x40), (0x5B, 0x60), (0x7B, 0x7E)]
  | space => [(9, 13), (0x20, 0x20)]
  | upper => [(0x41, 0x5A)]
  | word => [(0x30, 0x39), (0x41, 0x5A), (0x5F, 0x5F), (0x61, 0x7A)]
  | xdigit => [(0x30, 0x39), (0x41, 0x46), (0x61, 0x66)]

/-- What is missing when a property has no characters. -/
def causeOf : PropertyFault → SyntaxCause
  | .unknownName => .unknownProperty
  | .unknownValue => .unknownPropertyValue

/-! ## 2. Flags -/

namespace Flags

/-- A set, up to case if letters stand for both. -/
def bothCases (f : Flags) (s : Spans) : Spans :=
  if !f.caseless then s else if f.unicode then s.caseless else s.caselessAscii

/-- A set that is written over a stretch, or what is not in it. -/
def signed (f : Flags) (isNegated : Bool) (written : Stretch) (s : Spans) :
    Except SyntaxFault Spans :=
  let s := if isNegated then s.complement else s
  if f.unicode || s.isAscii then .ok s else faultIn .brokenEncoding written.start written.stop

/-- The characters of a named set that is written over a stretch. -/
def named (f : Flags) (isNegated : Bool) (written : Stretch) : NamedSet → Except SyntaxFault Spans
  | .digit => f.signed isNegated written (if f.unicode then digitSpans else AsciiSet.digit.spans)
  | .blank => f.signed isNegated written (if f.unicode then blankSpans else AsciiSet.space.spans)
  | .word => f.signed isNegated written (if f.unicode then wordSpans else AsciiSet.word.spans)
  | .property name value =>
    if !f.unicode then faultIn .unicodeNotAllowed written.start written.stop
    else
      match (value.map (valueSpans name)).getD (traitSpans name) with
      | .error e => faultIn (causeOf e) written.start written.stop
      | .ok s => f.signed isNegated written (f.bothCases s)

/-- The code point of a letter in brackets. -/
def code (f : Flags) (l : SetLetter) : Except SyntaxFault Nat :=
  if f.unicode || decide (l.char.toNat < 128) then .ok l.char.toNat
  else
    faultIn (if l.isByte then .brokenEncoding else .unicodeNotAllowed) l.stretch.start l.stretch.stop

end Flags

/-! ## 3. Sets in brackets -/

/-- What an operation makes of two sets. -/
def SetOperation.apply : SetOperation → Spans → Spans → Spans
  | inter => Spans.inter
  | diff => Spans.diff
  | symmDiff => Spans.symmDiff

mutual

/-- The characters of a set under some flags. -/
def SetTree.spans (f : Flags) : SetTree → Except SyntaxFault Spans
  | .empty _ => .ok []
  | .letter l => (f.code l).map (fun n => [(n, n)])
  | .range first last => do return Spans.range (← f.code first) (← f.code last)
  | .ascii isNegated s written => f.signed isNegated written (f.bothCases s.spans)
  | .named isNegated s written => f.named isNegated written s
  | .brackets isNegated body written =>
    match body.spans f with
    | .error e => .error e
    | .ok s => f.signed isNegated written (f.bothCases s)
  | .union members _ => SetTree.unionOnto f [] members
  | .operation op left right _ =>
    match left.spans f with
    | .error e => .error e
    | .ok s =>
      match right.spans f with
      | .error e => .error e
      | .ok t => .ok (op.apply (f.bothCases s) (f.bothCases t))

/-- The characters of some sets, and those that are `found`. -/
def SetTree.unionOnto (f : Flags) (found : Spans) : List SetTree → Except SyntaxFault Spans
  | [] => .ok found.join
  | t :: rest =>
    match t.spans f with
    | .error e => .error e
    | .ok s => SetTree.unionOnto f (s ++ found) rest

end

/-- A range of capitals stands for small letters too if both cases are meant. -/
example : (SetTree.brackets false (.range ⟨'A', false, ⟨1, 2⟩⟩ ⟨'C', false, ⟨3, 4⟩⟩) ⟨0, 5⟩).spans
      ⟨true, false, false, false, false, false, false⟩ = .ok [(0x41, 0x43), (0x61, 0x63)] := by cbv

/-- Where only ASCII is meant a set cannot be negated. -/
example : (SetTree.ascii true .digit ⟨1, 11⟩).spans { Flags.start with unicode := false } =
    .error ⟨.brokenEncoding, ⟨1, 11⟩, none⟩ := by cbv

end KeywordGrammar.Pattern
