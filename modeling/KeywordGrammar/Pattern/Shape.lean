/-
# The shape of a pattern

An automaton is not made of what is written but of its shape: letters that stand for both cases have
become sets, letters in a row are one part, sequences and branches lie in no others of their kind, and
what branches have in common in front stands in front of them.  Here are the parts of shapes and the
functions that put them together so.
-/
import KeywordGrammar.Pattern.Escape
import KeywordGrammar.Pattern.Repeat
import KeywordGrammar.Unicode.Spans

namespace KeywordGrammar.Pattern

open Unicode

/-! ## 1. The type -/

/-- A condition on a place. -/
inductive Look where
  | textStart
  | textEnd
  /-- The start of a line; a carriage return may end the line before if `crlf`. -/
  | lineStart (crlf : Bool)
  | lineEnd (crlf : Bool)
  /-- Between word characters and others, those of ASCII unless `unicode`. -/
  | word (b : Boundary) (unicode : Bool)
  deriving DecidableEq, Repr

/-- What an automaton is made of. -/
inductive Shape where
  | empty
  | literal (text : List Char)
  /-- One character of a set, which was meant to be one of ASCII unless `unicode`. -/
  | set (s : Spans) (unicode : Bool)
  | look (l : Look)
  | repetition (times : Times) (isGreedy : Bool) (body : Shape)
  | group (index : Nat) (body : Shape)
  | seq (parts : List Shape)
  | either (branches : List Shape)

namespace Shape

/-! ## 2. Properties -/

mutual

/-- Whether only the empty text can match. -/
def isZeroWidth : Shape → Bool
  | empty => true
  | literal _ => false
  | set _ _ => false
  | look _ => true
  | repetition times _ body => times.most.isSome && body.isZeroWidth
  | group _ body => body.isZeroWidth
  | seq parts => allZeroWidth parts
  | either branches => allZeroWidth branches

/-- Whether no part takes any text. -/
def allZeroWidth : List Shape → Bool
  | [] => true
  | p :: rest => p.isZeroWidth && allZeroWidth rest

end

mutual

/-- How many bytes a match has at least; nothing is known if some set is empty. -/
def minLength? : Shape → Option Nat
  | empty => some 0
  | literal text => some (text.foldl (fun n c => n + c.utf8Size) 0)
  | set [] _ => none
  | set (span :: _) _ => some (Char.ofNat span.1).utf8Size
  | look _ => some 0
  | repetition times _ body => body.minLength?.map (times.least * ·)
  | group _ body => body.minLength?
  | seq parts => lengthOf 0 parts
  | either branches => leastLength none branches

/-- The bytes of some parts together, and `found` more. -/
def lengthOf (found : Nat) : List Shape → Option Nat
  | [] => some found
  | p :: rest =>
    match p.minLength? with
    | none => none
    | some n => lengthOf (found + n) rest

/-- The bytes of the shortest of some branches, and of those that came before. -/
def leastLength (found : Option Nat) : List Shape → Option Nat
  | [] => found
  | p :: rest =>
    match p.minLength? with
    | none => none
    | some n => leastLength (some (min (found.getD n) n)) rest

end

mutual

/-- Whether every match starts where the text does. -/
def startsAtText : Shape → Bool
  | look l => l == .textStart
  | repetition times _ body => times.least != 0 && body.startsAtText
  | group _ body => body.startsAtText
  | seq parts => frontStartsAtText parts
  | either branches => allStartAtText branches
  | _ => false

/-- Whether a sequence starts where the text does. -/
def frontStartsAtText : List Shape → Bool
  | [] => false
  | p :: rest => p.startsAtText || (p.isZeroWidth && frontStartsAtText rest)

/-- Whether all of some branches start where the text does. -/
def allStartAtText : List Shape → Bool
  | [] => true
  | p :: rest => p.startsAtText && allStartAtText rest

end

mutual

/-- Whether every match ends where the text does. -/
def endsAtText : Shape → Bool
  | look l => l == .textEnd
  | repetition times _ body => times.least != 0 && body.endsAtText
  | group _ body => body.endsAtText
  | seq parts => backEndsAtText false parts
  | either branches => allEndAtText branches
  | _ => false

/-- Whether a sequence ends where the text does, if that is so or not in front of it. -/
def backEndsAtText (inFront : Bool) : List Shape → Bool
  | [] => inFront
  | p :: rest => backEndsAtText (p.endsAtText || (inFront && p.isZeroWidth)) rest

/-- Whether all of some branches end where the text does. -/
def allEndAtText : List Shape → Bool
  | [] => true
  | p :: rest => p.endsAtText && allEndAtText rest

end

mutual

/-- Whether some condition asks what is a word character of Unicode. -/
def asksForWords : Shape → Bool
  | look (.word _ unicode) => unicode
  | repetition _ _ body => body.asksForWords
  | group _ body => body.asksForWords
  | seq parts => anyAsksForWords parts
  | either branches => anyAsksForWords branches
  | _ => false

/-- Whether some part asks what is a word character of Unicode. -/
def anyAsksForWords : List Shape → Bool
  | [] => false
  | p :: rest => p.asksForWords || anyAsksForWords rest

end

mutual

/-- Whether two shapes are the same. -/
def same : Shape → Shape → Bool
  | empty, empty => true
  | literal s, literal t => s == t
  | set s unicode, set t unicode' => unicode == unicode' && s == t
  | look l, look l' => l == l'
  | repetition n isGreedy p, repetition n' isGreedy' q =>
    n == n' && isGreedy == isGreedy' && p.same q
  | group index p, group index' q => index == index' && p.same q
  | seq ps, seq qs => allSame ps qs
  | either ps, either qs => allSame ps qs
  | _, _ => false

/-- Whether the shapes of two lists are the same. -/
def allSame : List Shape → List Shape → Bool
  | [], [] => true
  | p :: ps, q :: qs => p.same q && allSame ps qs
  | _, _ => false

end

mutual

/-- The number of parts, parts of parts and so on. -/
def weight : Shape → Nat
  | repetition _ _ body => body.weight + 1
  | group _ body => body.weight + 1
  | seq parts => weightOf 1 parts
  | either branches => weightOf 1 branches
  | _ => 1

/-- The weight of some parts, and `found` more. -/
def weightOf (found : Nat) : List Shape → Nat
  | [] => found
  | p :: rest => weightOf (found + p.weight) rest

end

/-! ## 3. Putting shapes together -/

/-- A set; one of a single character is a literal. -/
def ofSpans (unicode : Bool) (s : Spans) : Shape :=
  match s with
  | [] => set [] false
  | [(lo, hi)] => if lo = hi then literal [Char.ofNat lo] else set s unicode
  | _ => set s unicode

/-- A shape that is repeated.  What takes no text need not be repeated more than once. -/
def repeated (times : Times) (isGreedy : Bool) (body : Shape) : Shape :=
  let times :=
    if body.isZeroWidth then ⟨min times.least 1, some (min (times.most.getD 1) 1)⟩ else times
  if times = ⟨0, some 0⟩ then empty
  else if times = ⟨1, some 1⟩ then body
  else repetition times isGreedy body

/-- A shape in front of those that follow it. -/
def before (p : Shape) (others : List Shape) : List Shape :=
  match p, others with
  | empty, _ => others
  | literal s, literal t :: rest => literal (s ++ t) :: rest
  | _, _ => p :: others

/-- The parts of a sequence. -/
def parts : Shape → List Shape
  | seq ps => ps
  | p => [p]

/-- One shape behind the other. -/
def inSequence (shapes : List Shape) : Shape :=
  match (shapes.flatMap parts).reverse.foldl (fun others p => p.before others) [] with
  | [] => empty
  | [p] => p
  | ps => seq ps

/-- The branches of a shape. -/
def branches : Shape → List Shape
  | either ps => ps
  | p => [p]

/-- The characters that one of some branches has to be, if all of them are sets or all of them are
literals of one character. -/
def commonSet? (shapes : List Shape) : Option Spans :=
  let singles := shapes.mapM (fun p => match p with
    | literal [c] => some (Spans.single c)
    | _ => none)
  let sets := shapes.mapM (fun p => match p with
    | set s _ => some s
    | _ => none)
  (singles.or sets).map (fun found => Spans.join found.flatten)

/-- How many shapes two lists have in common in front, up to a limit; `found` are counted already. -/
def sharedFront (found : Nat) : Nat → List Shape → List Shape → Nat
  | limit + 1, p :: ps, q :: qs => if p.same q then sharedFront (found + 1) limit ps qs else found
  | _, _, _ => found

/-- How many of the first `limit` parts some branches have in front. -/
def sharedParts (first : List Shape) (limit : Nat) : List Shape → Nat
  | seq ps :: rest =>
    match sharedFront 0 limit first ps with
    | 0 => 0
    | n => sharedParts first n rest
  | [] => limit
  | _ => 0

/-- What some branches have in common in front, and what is left of them. -/
def lift? (shapes : List Shape) : Option (List Shape × List Shape) :=
  match shapes with
  | seq first :: rest =>
    match sharedParts first first.length rest with
    | 0 => none
    | n => some (first.take n, shapes.map (fun p => inSequence (p.parts.drop n)))
  | _ => none

/-- One shape or else the next.  What the first branch has in common with the others gets shorter each
time, so `fuel` is its weight. -/
def oneOfWithin (fuel : Nat) (shapes : List Shape) : Shape :=
  match shapes.flatMap branches with
  | [] => set [] false
  | [p] => p
  | all =>
    match commonSet? all with
    | some s => ofSpans true s
    | none =>
      match fuel, lift? all with
      | n + 1, some (front, rest) => inSequence (front ++ [oneOfWithin n rest])
      | _, _ => either all

/-- One shape or else the next. -/
def oneOf (shapes : List Shape) : Shape := oneOfWithin (shapes.head?.elim 0 weight) shapes

end Shape

end KeywordGrammar.Pattern
