/-
# The log

What happens in a run is recorded as a list of events.  Which of them are shown is decided afterwards,
by a filter: a list of directives, each giving a level to the events whose target starts with some
text and that have some field.  The most specific directive that fits decides, and an event that
nothing fits is not shown.

A directive is written `target[span{field}]=level`, and all its parts can be left out.  Runs record no
spans, so a directive for a span, or for a value of a field, never fits anything.
-/
import KeywordGrammar.Pattern.Reading
import KeywordGrammar.Text.Lines
import KeywordGrammar.Text.Quoted
import KeywordGrammar.Unicode.Letter

namespace KeywordGrammar

open Unicode

/-! ## 1. Events -/

/-- How much an event matters. -/
inductive Level where
  | error
  | warn
  | info
  | debug
  | trace
  deriving DecidableEq, Repr

namespace Level

/-- The most important level has the lowest number. -/
def verbosity : Level → Nat
  | error => 1
  | warn => 2
  | info => 3
  | debug => 4
  | trace => 5

/-- The name of a level in the log. -/
def name : Level → String
  | error => "ERROR"
  | warn => "WARN"
  | info => "INFO"
  | debug => "DEBUG"
  | trace => "TRACE"

end Level

/-- Something that happens in a run. -/
inductive Event where
  | loadedSource (path : String) (terms : Nat)
  | aggregatedMapping (keyCategory : String) (keys : Nat) (memberCategory : String) (members : Nat)
  | resolvedCategory (category : String) (kept shadowed : Nat)
  | fullyShadowed (category : String) (candidates : Nat)
  | omittedCategory (category : String)
  | generatedGrammar (name : String) (rules : Nat)
  deriving DecidableEq, Repr

namespace Event

/-- How much the event matters. -/
def level : Event → Level
  | fullyShadowed _ _ => .warn
  | generatedGrammar _ _ => .info
  | _ => .debug

/-- The part of the program that the event belongs to. -/
def target : Event → String
  | loadedSource _ _ => "popgram::source"
  | aggregatedMapping _ _ _ _ => "popgram::engine::aggregate"
  | resolvedCategory _ _ _ => "popgram::engine::dedup"
  | fullyShadowed _ _ => "popgram::engine::dedup"
  | omittedCategory _ => "popgram::engine::emit"
  | generatedGrammar _ _ => "popgram::api"

/-- The names of what is recorded with the event. -/
def fields : Event → List String
  | loadedSource _ _ => ["message", "path", "terms"]
  | aggregatedMapping _ _ _ _ => ["message", "key_category", "keys", "member_category", "members"]
  | resolvedCategory _ _ _ => ["message", "category", "kept", "shadowed"]
  | fullyShadowed _ _ => ["message", "category", "candidates"]
  | omittedCategory _ => ["message", "category"]
  | generatedGrammar _ _ => ["message", "grammar", "rules"]

/-- What the log says about the event. -/
def text : Event → String
  | loadedSource path terms => "loaded source path=" ++ path ++ " terms=" ++ toString terms
  | aggregatedMapping keyCategory keys memberCategory members =>
    "aggregated mapping key_category=" ++ Text.quoted keyCategory ++ " keys=" ++ toString keys ++
      " member_category=" ++ Text.quoted memberCategory ++ " members=" ++ toString members
  | resolvedCategory category kept shadowed =>
    "resolved category category=" ++ Text.quoted category ++ " kept=" ++ toString kept ++
      " shadowed=" ++ toString shadowed
  | fullyShadowed category candidates =>
    "every term is owned by a higher category category=" ++ Text.quoted category ++
      " candidates=" ++ toString candidates
  | omittedCategory category => "omitting empty category category=" ++ category
  | generatedGrammar name rules =>
    "generated grammar grammar=" ++ name ++ " rules=" ++ toString rules

/-- The line of an event at a point in time. -/
def line (time : String) (e : Event) : String :=
  let name := e.level.name
  time ++ " " ++ String.ofList (List.replicate (5 - name.length) ' ') ++ name ++ " " ++ e.text ++ "\n"

end Event

/-! ## 2. Levels in settings -/

/-- Verbosities by name. -/
def verbosities : List (String × Nat) :=
  [("off", 0), ("error", 1), ("warn", 2), ("info", 3), ("debug", 4), ("trace", 5)]

/-- The highest verbosity. -/
def maxVerbosity : Nat := 5

/-- The number that decimal digits write, with or without a plus sign. -/
def numberOf? (word : List Char) : Option Nat :=
  let digits := if word.head? == some '+' then word.drop 1 else word
  if digits.isEmpty || digits.any (fun c => !c.isDigit) then none
  else some (digits.foldl (fun n c => 10 * n + (c.toNat - '0'.toNat)) 0)

/-- The verbosity that a word names, in capitals or not, or gives as a number. -/
def verbosity? (word : List Char) : Option Nat :=
  match numberOf? word with
  | some n => if n ≤ maxVerbosity then some n else none
  | none => verbosities.lookup (String.ofList (word.map Char.toLower))

/-! ## 3. Directives -/

/-- The highest verbosity shown for the events whose target starts with a text and that have some
field; zero shows nothing. -/
structure Directive where
  target : List Char
  /-- The name of the field that an event must have. -/
  field : Option (List Char)
  /-- Whether only spans, or only some values of a field, are meant. -/
  limited : Bool
  verbosity : Nat
  deriving DecidableEq, Repr

namespace Directive

/-- Whether a directive may start with `c`, square brackets apart. -/
def isNameStart (c : Char) : Bool := c == '-' || c == ':' || c == '_' || isLetterOrNumber c

/-- The directive with the level that `word` names; without a word all levels are shown. -/
def withLevel (d : Directive) (word : List Char) : Option Directive :=
  if word.isEmpty then some d
  else (verbosity? word).map (fun v => { d with verbosity := v })

/-- Reads what follows the brackets, from a place of `text` on: nothing, or the level. -/
def afterBrackets (text : List Char) (d : Directive) (place : Nat) : List Char → Option Directive
  | [] => some d
  | c :: _ => if c = '=' then d.withLevel (text.drop (place + 1)) else none

/-- What follows a sign. -/
def unsigned (text : List Char) : List Char :=
  match text with
  | '+' :: rest => rest
  | '-' :: rest => rest
  | _ => text

/-- Whether decimal digits, perhaps with a point among them and an exponent behind, make up a text. -/
def isDecimal (text : List Char) : Bool :=
  let whole := text.takeWhile Char.isDigit
  let behind := text.dropWhile Char.isDigit
  let (fraction, behind) := match behind with
    | '.' :: rest => (rest.takeWhile Char.isDigit, rest.dropWhile Char.isDigit)
    | _ => ([], behind)
  !(whole.isEmpty && fraction.isEmpty) &&
    match behind with
    | [] => true
    | e :: rest =>
      e.toLower == 'e' && !(unsigned rest).isEmpty && (unsigned rest).all Char.isDigit

/-- Whether a text is a number, infinity and what is no number included. -/
def isNumber (text : List Char) : Bool :=
  let word := String.ofList ((unsigned text).map Char.toLower)
  ["inf", "infinity", "nan"].contains word || isDecimal (unsigned text)

/-- Whether `value` can say which values of a field are meant: it is a number, or a pattern that does
not ask for words. -/
def isFieldValue (value : List Char) : Bool :=
  isNumber value ||
    (Pattern.read (String.ofList value)).toOption.any (fun p => !p.shape.asksForWords)

/-- Reads a field and what follows it, from the place `start` of `text` on; `shown` is what is left
there without the blanks in front of `text`. -/
def fromField (text : List Char) (d : Directive) (start : Nat) (shown : List Char) :
    Option Directive :=
  match shown.findIdx? (· == '\x7d') with
  | none => none
  | some n =>
    let field := (text.take (start + n)).drop start
    let name := field.takeWhile (· != '=')
    let value := field.drop (name.length + 1) |>.takeWhile (· != '=')
    let read := { d with field := some name, limited := d.limited || field.contains '=' }
    match shown.drop (n + 1) with
    | ']' :: rest =>
      if field.isEmpty || !isFieldValue value then none
      else afterBrackets text read (start + n + 2) rest
    | _ => none

/-- Reads what stands in the brackets and what follows them, from the place `start` of `text` on;
`shown` is what is left there without the blanks in front of `text`. -/
def fromBrackets (text : List Char) (d : Directive) (start : Nat) (shown : List Char) :
    Option Directive :=
  match shown.findIdx? (fun c => c == ']' || c == '\x7b') with
  | none => none
  | some n =>
    let span := (text.take (start + n)).drop start
    match shown.drop n with
    | ']' :: rest => afterBrackets text { d with limited := true } (start + n + 1) rest
    | _ :: rest => fromField text { d with limited := !span.isEmpty } (start + n + 1) rest
    | [] => none

/-- The directive that a text writes.  The places of its parts are counted without the blanks in front
of it, but the parts are cut out of the whole text. -/
def ofText? (text : List Char) : Option Directive :=
  let all : Directive := ⟨[], none, false, maxVerbosity⟩
  let shown := Text.trim text
  match shown with
  | [] => none
  | '[' :: rest => fromBrackets text all 1 rest
  | c :: _ =>
    if !isNameStart c then none
    else
      match shown.findIdx? (fun c => c == '=' || c == '[') with
      | none =>
        match verbosity? text with
        | some v => some { all with verbosity := v }
        | none => some { all with target := text }
      | some n =>
        let d := { all with target := text.take n }
        match shown.drop n with
        | '=' :: _ => d.withLevel (text.drop (n + 1))
        | _ :: rest => fromBrackets text d (n + 1) rest
        | [] => none

/-- Whether the directive is about an event. -/
def fits (d : Directive) (e : Event) : Bool :=
  !d.limited && d.target.isPrefixOf e.target.toList &&
    d.field.all (fun name => e.fields.contains (String.ofList name))

/-- Whether `d`, which comes later, decides rather than `e`, both of which fit: its target is longer,
or only `d` asks for a field, or for one that is not before that of `e` in the order of names. -/
def decidesOver (d e : Directive) : Bool :=
  if d.target.length ≠ e.target.length then decide (e.target.length < d.target.length)
  else
    match d.field, e.field with
    | some name, some other => !decide (String.ofList name < String.ofList other)
    | none, some _ => false
    | _, none => true

end Directive

/-! ## 4. Filters -/

/-- Directives, of which the most specific that fits decides. -/
structure Filter where
  directives : List Directive
  deriving DecidableEq, Repr

namespace Filter

/-- The filter that shows all events up to a level. -/
def upTo (level : Level) : Filter := ⟨[⟨[], none, false, level.verbosity⟩]⟩

/-- Warnings and errors. -/
def standard : Filter := upTo .warn

/-- The filter that a text describes: directives separated by commas; none at all shows errors. -/
def ofText? (text : String) : Option Filter :=
  match (text.toList.splitOn ',').filter (fun piece => !piece.isEmpty) with
  | [] => some (upTo .error)
  | pieces => (pieces.mapM Directive.ofText?).map Filter.mk

/-- The filter of a setting; without one, or with one that makes no sense, the standard filter. -/
def ofSetting (setting : Option String) : Filter := (setting.bind ofText?).getD standard

/-- The one of two directives that decides. -/
def moreSpecific (best : Option Directive) (d : Directive) : Option Directive :=
  match best with
  | some b => if d.decidesOver b then some d else some b
  | none => some d

/-- The directive that decides about an event. -/
def deciding? (f : Filter) (e : Event) : Option Directive :=
  (f.directives.filter (fun d => d.fits e)).foldl moreSpecific none

/-- Whether an event is shown. -/
def shows (f : Filter) (e : Event) : Bool :=
  match f.deciding? e with
  | some d => decide (e.level.verbosity ≤ d.verbosity)
  | none => false

end Filter

/-- A level, a target with a level, a target alone and a setting that makes no sense. -/
example : Filter.ofText? "info" = some (.upTo .info) ∧
    (Filter.ofText? "popgram::api=+3").map Filter.directives =
      some [⟨"popgram::api".toList, none, false, 3⟩] ∧
    (Filter.ofText? "popgram=").map Filter.directives =
      some [⟨"popgram".toList, none, false, 5⟩] ∧
    Filter.ofText? "=debug" = none := by decide +kernel

/-- The log of some events. -/
def logText (f : Filter) (time : String) (events : List Event) : String :=
  String.join ((events.filter f.shows).map (Event.line time))

end KeywordGrammar
