/-
# What a written pattern means

Rules are written with letters, escapes, `.`, `\b`, `\d`, `\s`, `\w`, `^`, `$`, counts of one
character, branches, groups and the flags `i` and `x`; of these patterns are made.  Everything else is a
part that is not searched for.
-/
import KeywordGrammar.Pattern
import KeywordGrammar.Pattern.Tree

namespace KeywordGrammar.Pattern

/-! ## 1. Single parts -/

/-- What a condition means where lines have no start and end of their own. -/
def ofCondition : Condition → Pattern
  | .lineStart | .textStart => .anchor .textStart
  | .lineEnd | .textEnd => .anchor .textEnd
  | .word .edge => .anchor .wordBoundary
  | .word _ => .foreign

/-- What a part without parts of its own means. -/
def ofAtom (flags : Flags) (atom : Atom) : Pattern :=
  if !flags.isPlain then .foreign
  else
    match atom with
    | .simple (.letter c _) => .literal flags.caseless [c]
    | .simple (.set false .digit) => .run .digit .one
    | .simple (.set false .blank) => .run .blank .one
    | .simple (.set false .word) => .run .word .one
    | .simple (.set _ _) => .foreign
    | .simple (.condition c) => ofCondition c
    | .point => .run .inLine .one
    | .brackets _ => .foreign

/-- The counts that patterns know. -/
def countOf? (times : Times) : Option Count :=
  [(⟨0, some 1⟩, .atMostOne), (⟨0, none⟩, .any), (⟨1, none⟩, .atLeastOne)].lookup times

/-- A pattern that is repeated. -/
def repeated (times : Times) (isGreedy : Bool) (p : Pattern) : Pattern :=
  match isGreedy, countOf? times, p with
  | true, some n, .run set .one => .run set n
  | true, some n, .literal caseless [c] => .run (.exactly caseless c) n
  | _, _, _ => .foreign

/-! ## 2. Whole patterns -/

/-- A pattern in front of those that follow it.  Letters are put together, and a pattern without any is
left out. -/
def before (p : Pattern) (others : List Pattern) : List Pattern :=
  match p, others with
  | .literal _ [], _ => others
  | .literal caseless s, .literal caseless' t :: rest =>
    if caseless = caseless' then .literal caseless (s ++ t) :: rest else p :: others
  | _, _ => p :: others

mutual

/-- What a written pattern means. -/
def ofTree : Tree → Pattern
  | .nothing => .empty
  | .leaf flags atom _ => ofAtom flags atom
  | .repetition times isGreedy body _ => repeated times isGreedy (ofTree body)
  | .group (some index) body _ => .group index (ofTree body)
  | .group none body _ => ofTree body
  | .seq parts _ => inSequence ((ofTreesOnto [] parts).foldl (fun others p => p.before others) [])
  | .either branches _ => oneOf (ofTreesOnto [] branches).reverse

/-- What some written patterns mean, the last one first, in front of those that are `found`. -/
def ofTreesOnto (found : List Pattern) : List Tree → List Pattern
  | [] => found
  | t :: rest => ofTreesOnto (ofTree t :: found) rest

end

theorem ofTreesOnto_eq : ∀ (trees : List Tree) (found : List Pattern),
    ofTreesOnto found trees = (trees.map ofTree).reverse ++ found
  | [], found => by simp [ofTreesOnto]
  | t :: rest, found => by simp [ofTreesOnto, ofTreesOnto_eq rest]

end KeywordGrammar.Pattern
