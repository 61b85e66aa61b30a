/-
# Quoted text

A text quoted for a reader: between double quotes, with an escape for each character that would end
the quote, start an escape or show nothing.
-/
import KeywordGrammar.Unicode.Print

namespace KeywordGrammar.Text

open Unicode

/-- A character as it appears between the quotes. -/
def quotedChar (c : Char) : List Char :=
  match c with
  | '\x00' => ['\\', '0']
  | '\t' => ['\\', 't']
  | '\r' => ['\\', 'r']
  | '\n' => ['\\', 'n']
  | '"' => ['\\', '"']
  | '\\' => ['\\', '\\']
  | c => if isShown c then [c] else ['\\', 'u', '\x7b'] ++ Nat.toDigits 16 c.toNat ++ ['\x7d']

/-- The text between double quotes. -/
def quoted (text : String) : String :=
  String.ofList ('"' :: text.toList.flatMap quotedChar ++ ['"'])

/-- Quotes, controls and marks are escaped, letters are not. -/
example : quoted "a\"\x01\u0301é" = "\"a\\\"\\u\x7b1\x7d\\u\x7b301\x7dé\"" := by decide +kernel

end KeywordGrammar.Text
