/-
# From the written form to the shape

Each part of a written pattern is given its shape under its flags.  Some parts have none: a property
that does not exist, what only Unicode has where ASCII is meant, and what stands for single bytes.  The
first one in the order of the text is reported.
-/
import KeywordGrammar.Pattern.Sets
import KeywordGrammar.Pattern.Shape
import KeywordGrammar.Pattern.Tree

namespace KeywordGrammar.Pattern

open Unicode

/-! ## 1. Single parts -/

/-- What a condition asks for. -/
def Look.ofCondition (f : Flags) : Condition → Look
  | .lineStart => if f.multiLine then .lineStart f.crlf else .textStart
  | .lineEnd => if f.multiLine then .lineEnd f.crlf else .textEnd
  | .textStart => .textStart
  | .textEnd => .textEnd
  | .word b => .word b f.unicode

/-- The characters that a point stands for. -/
def Flags.point (f : Flags) : Spans :=
  if f.dotAll then .full
  else if f.crlf then .complement [(0x0A, 0x0A), (0x0D, 0x0D)]
  else .complement [(0x0A, 0x0A)]

namespace Shape

/-- A letter, or the set of its forms if it stands for several. -/
def ofLetter (f : Flags) (c : Char) : Shape :=
  if !f.caseless then literal [c]
  else if f.unicode then
    match caseVariants c with
    | [] | [_] => literal [c]
    | forms => set (Spans.join (forms.map (fun d => (d.toNat, d.toNat)))) true
  else if c.isAlpha then set (Spans.caselessAscii (Spans.single c)) false
  else literal [c]

/-- The shape of a part that is written over a stretch. -/
def ofAtom (f : Flags) (written : Stretch) : Atom → Except SyntaxFault Shape
  | .simple (.letter c isByte) =>
    if !f.unicode && isByte && decide (128 ≤ c.toNat) then
      faultIn .brokenEncoding written.start written.stop
    else .ok (ofLetter f c)
  | .simple (.set isNegated s) => (f.named isNegated written s).map (ofSpans f.unicode)
  | .simple (.condition c) => .ok (look (.ofCondition f c))
  | .point =>
    if f.unicode then .ok (ofSpans true f.point)
    else faultIn .brokenEncoding written.start written.stop
  | .brackets s => (s.spans f).map (ofSpans f.unicode)

/-! ## 2. Whole patterns -/

mutual

/-- The shape of a written pattern. -/
def ofTree : Tree → Except SyntaxFault Shape
  | .nothing => .ok empty
  | .leaf flags atom written => ofAtom flags written atom
  | .repetition times isGreedy body _ => (ofTree body).map (repeated times isGreedy)
  | .group (some index) body _ => (ofTree body).map (group index)
  | .group none body _ => ofTree body
  | .seq parts _ => (ofTreesOnto [] parts).map inSequence
  | .either branches _ => (ofTreesOnto [] branches).map oneOf

/-- The shapes of some written patterns behind those that are `found`, the last of which stands
first. -/
def ofTreesOnto (found : List Shape) : List Tree → Except SyntaxFault (List Shape)
  | [] => .ok found.reverse
  | t :: rest =>
    match ofTree t with
    | .error e => .error e
    | .ok p => ofTreesOnto (p :: found) rest

end

end Shape

end KeywordGrammar.Pattern
