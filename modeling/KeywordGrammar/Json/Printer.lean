/-
# Writing JSON

A value is written with a layout: what stands in front of each item at a depth, and what stands
between a key and its value.  Empty lists and objects take no space in any layout.  In a string only
the quote, the backslash and the controls are escaped, the controls by a letter where there is one
and by four hexadecimal digits otherwise.
-/
import KeywordGrammar.Json.Value

namespace KeywordGrammar.Json

/-! ## 1. Strings -/

/-- A character as it appears between the quotes. -/
def escaped (c : Char) : List Char :=
  match c with
  | '"' => ['\\', '"']
  | '\\' => ['\\', '\\']
  | '\x08' => ['\\', 'b']
  | '\x0c' => ['\\', 'f']
  | '\n' => ['\\', 'n']
  | '\r' => ['\\', 'r']
  | '\t' => ['\\', 't']
  | c =>
    if c.toNat < 0x20 then
      ['\\', 'u', '0', '0', Nat.digitChar (c.toNat / 16), Nat.digitChar (c.toNat % 16)]
    else [c]

/-- A string between its quotes. -/
def stringText (s : String) : List Char := '"' :: (s.toList.flatMap escaped ++ ['"'])

/-! ## 2. Layouts -/

/-- What stands in front of an item, by its depth, and between a key and its value. -/
structure Layout where
  lead : Nat → List Char
  colon : List Char

/-- All on one line and without space. -/
def Layout.compact : Layout := ⟨fun _ => [], [':']⟩

/-- One item a line, indented by four spaces a level. -/
def Layout.indented : Layout :=
  ⟨fun depth => '\n' :: List.replicate (4 * depth) ' ', [':', ' ']⟩

/-- Bracketed items that are written already; a comma stands behind all but the last. -/
def bracketed (layout : Layout) (depth : Nat) (opening closing : Char) (items : List (List Char)) :
    List Char :=
  if items.isEmpty then [opening, closing]
  else
    opening :: (List.intercalate [','] (items.map (layout.lead (depth + 1) ++ ·)) ++
      layout.lead depth ++ [closing])

/-! ## 3. Values -/

mutual

/-- The text of a value at a depth. -/
def Value.textAt (layout : Layout) (depth : Nat) : Value → List Char
  | .null => ['n', 'u', 'l', 'l']
  | .bool true => ['t', 'r', 'u', 'e']
  | .bool false => ['f', 'a', 'l', 's', 'e']
  | .int n => (toString n).toList
  | .float negative magnitude => floatText negative magnitude
  | .string s => stringText s
  | .array items => bracketed layout depth '[' ']' (itemTexts layout (depth + 1) items)
  | .object members =>
    bracketed layout depth '\x7b' '\x7d' (memberTexts layout (depth + 1) members)

/-- The texts of the items of a list. -/
def itemTexts (layout : Layout) (depth : Nat) : List Value → List (List Char)
  | [] => []
  | v :: rest => v.textAt layout depth :: itemTexts layout depth rest

/-- The texts of the members of an object. -/
def memberTexts (layout : Layout) (depth : Nat) : List (String × Value) → List (List Char)
  | [] => []
  | (key, v) :: rest =>
    (stringText key ++ layout.colon ++ v.textAt layout depth) :: memberTexts layout depth rest

end

/-- The text of a value. -/
def Value.text (layout : Layout) (v : Value) : String := String.ofList (v.textAt layout 0)

/-- Empty lists stay on their line, others take one line an item. -/
example : (Value.object [("a", .array []), ("b", .array [.int (-1)])]).text .indented =
    "\x7b\n    \"a\": [],\n    \"b\": [\n        -1\n    ]\n\x7d" := by decide +kernel

/-- Without a layout all stands together, escapes included. -/
example : (Value.array [.string "\"\n\x01é", .null]).text .compact =
    "[\"\\\"\\n\\u0001é\",null]" := by decide +kernel

end KeywordGrammar.Json
