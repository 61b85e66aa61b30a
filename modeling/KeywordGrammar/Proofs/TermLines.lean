/-
# The laws of flat lists

A flat list is read line by line, and what is read of a line depends on that line alone: its blanks at
both ends are dropped, and nothing is left of a blank line.  Three laws follow, for every text:

* cutting a text at a line feed cuts what is read (`termLines_append_newline`), wherever the cut is;
* what is read are lines in a form of their own: not empty, without a line feed, and without blanks at
  the ends (`isTermLine_of_mem_termLines`);
* lines in that form are read back from a text that they are joined to, whether a line feed alone or a
  carriage return and a line feed ends each of them, and whether or not the last one is ended
  (`termLines_intercalate`).

A carriage return in front of a line feed is no part of its line, and anywhere else it is.  `linesOf`
tells these apart.  To a flat list that makes no difference (`termLines_eq_linesOf`): where a carriage
return could be dropped it is a blank at the end of its line, and it is dropped anyway.
-/
import KeywordGrammar.Text.Lines
import Mathlib.Data.List.DropRight

namespace KeywordGrammar.Text

open Unicode

/-! ## 1. Dropping blanks -/

/-- Whether there is no blank at either end. -/
structure IsTight (line : List Char) : Prop where
  front : ∀ c ∈ line.head?, isBlank c = false
  back : ∀ c ∈ line.getLast?, isBlank c = false

theorem trim_eq (line : List Char) : trim line = (line.dropWhile isBlank).rdropWhile isBlank := rfl

theorem trim_of_isTight {line : List Char} (h : IsTight line) : trim line = line := by
  have hfront : line.dropWhile isBlank = line := by
    cases line with
    | nil => rfl
    | cons c rest => exact List.dropWhile_cons_of_neg (by simp [h.front c rfl])
  rw [trim_eq, hfront, List.rdropWhile_eq_self_iff]
  intro hne
  simp [h.back _ (List.getLast?_eq_some_getLast hne)]

theorem mem_of_mem_trim {line : List Char} {c : Char} (h : c ∈ trim line) : c ∈ line := by
  have hfront := List.rdropWhile_prefix isBlank (line.dropWhile isBlank)
  exact (List.dropWhile_suffix isBlank).subset (hfront.subset h)

theorem isTight_trim (line : List Char) : IsTight (trim line) := by
  constructor
  · intro c hc
    -- what is left begins where the blanks at the front end
    obtain ⟨back, hback⟩ := List.rdropWhile_prefix isBlank (line.dropWhile isBlank)
    rw [← trim_eq] at hback
    have hfront := List.head?_dropWhile_not isBlank line
    rw [← hback, List.head?_append, Option.mem_def.mp hc] at hfront
    simpa using hfront
  · intro c hc
    have hne : trim line ≠ [] := by
      intro hnil
      rw [hnil] at hc
      cases hc
    have hlast := List.rdropWhile_last_not isBlank (line.dropWhile isBlank) hne
    rw [Option.mem_def, List.getLast?_eq_some_getLast hne, Option.some.injEq] at hc
    simp only [← trim_eq] at hlast
    rw [← hc]
    simpa using hlast

/-- One more blank at the end makes no difference. -/
theorem trim_concat {c : Char} (hc : isBlank c = true) (line : List Char) :
    trim (line ++ [c]) = trim line := by
  rw [trim_eq, trim_eq, List.dropWhile_append]
  split
  · rename_i hblank
    rw [List.isEmpty_iff.mp hblank, List.dropWhile_cons_of_pos hc, List.dropWhile_nil]
  · exact List.rdropWhile_concat_pos isBlank _ c hc

/-! ## 2. Lines with their ends -/

/-- A line without the carriage return that belongs to its end. -/
def dropReturn (line : List Char) : List Char :=
  if line.getLast? = some '\r' then line.dropLast else line

/-- The lines that the pieces between line feeds are.  The last piece has no end, and none is a line if
there is nothing in it. -/
def linesOfPieces : List (List Char) → List (List Char)
  | [] => []
  | [last] => if last.isEmpty then [] else [last]
  | line :: rest => dropReturn line :: linesOfPieces rest

/-- The lines of a text, each without its end. -/
def linesOf (text : String) : List (List Char) := linesOfPieces (text.toList.splitOn '\n')

theorem trim_dropReturn (line : List Char) : trim (dropReturn line) = trim line := by
  unfold dropReturn
  split
  · rename_i hlast
    obtain ⟨front, rfl⟩ := List.getLast?_eq_some_iff.mp hlast
    rw [List.dropLast_concat, trim_concat isBlank_newline.2]
  · rfl

theorem filter_trim_linesOfPieces : ∀ pieces : List (List Char),
    ((linesOfPieces pieces).map trim).filter (fun line => !line.isEmpty) =
      (pieces.map trim).filter (fun line => !line.isEmpty)
  | [] => rfl
  | [last] => by
    cases last with
    | nil => rfl
    | cons c rest => rfl
  | line :: next :: rest => by
    rw [linesOfPieces, List.map_cons, List.map_cons, List.filter_cons, List.filter_cons,
      trim_dropReturn, filter_trim_linesOfPieces (next :: rest)]
    exact fun h => by cases h

/-- **What is read are the lines of the text, trimmed, less the blank ones.** -/
theorem termLines_eq_linesOf (text : String) : termLines text =
    (((linesOf text).map trim).filter (fun line => !line.isEmpty)).map String.ofList := by
  rw [linesOf, filter_trim_linesOfPieces, termLines]

/-- A carriage return ends no line, and belongs to the end of a line only in front of its line feed. -/
example : linesOf "a\r\r\n\nb\rc\r" = ["a\r".toList, [], "b\rc\r".toList] := by decide +kernel

/-! ## 3. Cutting at a line feed -/

theorem termLines_append_newline (a b : String) :
    termLines (a ++ "\n" ++ b) = termLines a ++ termLines b := by
  have htext : (a ++ "\n" ++ b).toList = a.toList ++ '\n' :: b.toList := by
    rw [String.toList_append, String.toList_append, List.append_assoc]
    rfl
  rw [termLines, htext, List.splitOn_append_cons_self, List.map_append, List.filter_append,
    List.map_append]
  rfl

/-- A text without a line feed is one line at most. -/
theorem termLines_of_not_mem {text : String} (h : '\n' ∉ text.toList) : termLines text =
    if (trim text.toList).isEmpty then [] else [String.ofList (trim text.toList)] := by
  rw [termLines, List.splitOn_eq_singleton h]
  cases hempty : (trim text.toList).isEmpty with
  | true => simp [hempty]
  | false => simp [hempty]

/-! ## 4. Lines in their own form -/

/-- Whether a text is a line as it is read: not empty, without a line feed, and without blanks at its
ends. -/
structure IsTermLine (line : String) : Prop where
  ne_empty : line ≠ ""
  oneLine : '\n' ∉ line.toList
  tight : IsTight line.toList

/-- No piece between line feeds holds a line feed. -/
theorem not_mem_of_mem_splitOn : ∀ {text : List Char} {piece : List Char},
    piece ∈ text.splitOn '\n' → '\n' ∉ piece
  | [], piece, h => by
    rw [List.splitOn_nil, List.mem_singleton] at h
    rw [h]
    exact List.not_mem_nil
  | c :: rest, piece, h => by
    rw [List.splitOn_cons_eq_if_modifyHead] at h
    split at h
    · rcases List.mem_cons.mp h with rfl | h
      · exact List.not_mem_nil
      · exact not_mem_of_mem_splitOn h
    · rename_i hc
      obtain ⟨first, others, hsplit⟩ := List.exists_cons_of_ne_nil (List.splitOn_ne_nil '\n' rest)
      rw [hsplit, List.modifyHead_cons] at h
      rcases List.mem_cons.mp h with rfl | h
      · intro hmem
        rcases List.mem_cons.mp hmem with heq | hmem
        · exact hc (beq_iff_eq.mpr heq.symm)
        · exact not_mem_of_mem_splitOn (hsplit ▸ List.mem_cons_self) hmem
      · exact not_mem_of_mem_splitOn (hsplit ▸ List.mem_cons_of_mem first h)

theorem isTermLine_of_mem_termLines {text line : String} (h : line ∈ termLines text) :
    IsTermLine line := by
  rw [termLines] at h
  obtain ⟨letters, hletters, rfl⟩ := List.mem_map.mp h
  obtain ⟨hmem, hne⟩ := List.mem_filter.mp hletters
  obtain ⟨piece, hpiece, rfl⟩ := List.mem_map.mp hmem
  refine ⟨?_, ?_, ?_⟩
  · intro hempty
    rw [← String.toList_eq_nil_iff, String.toList_ofList] at hempty
    simp [hempty] at hne
  · rw [String.toList_ofList]
    intro hnewline
    exact not_mem_of_mem_splitOn hpiece (mem_of_mem_trim hnewline)
  · rw [String.toList_ofList]
    exact isTight_trim piece

/-! ## 5. Joining lines -/

/-- What ends a line that another one follows. -/
def lineEndings : List String := ["\n", "\r\n"]

theorem termLines_of_isTermLine {line : String} (h : IsTermLine line) : termLines line = [line] := by
  have hne : line.toList.isEmpty = false := by
    rw [List.isEmpty_eq_false_iff, Ne, String.toList_eq_nil_iff]
    exact h.ne_empty
  rw [termLines_of_not_mem h.oneLine, trim_of_isTight h.tight, hne, String.ofList_toList]
  rfl

theorem termLines_append_return {line : String} (h : IsTermLine line) :
    termLines (line ++ "\r") = [line] := by
  have htext : (line ++ "\r").toList = line.toList ++ ['\r'] := String.toList_append
  have hone : '\n' ∉ (line ++ "\r").toList := by
    rw [htext, List.mem_append]
    rintro (hmem | hmem)
    · exact h.oneLine hmem
    · exact absurd hmem (by decide)
  have hself := termLines_of_isTermLine h
  rw [termLines_of_not_mem h.oneLine] at hself
  rw [termLines_of_not_mem hone, htext, trim_concat isBlank_newline.2]
  exact hself

/-- An ended line is read as it is, whatever follows. -/
theorem termLines_ended {line ending : String} (h : IsTermLine line) (hending : ending ∈ lineEndings)
    (rest : String) : termLines (line ++ ending ++ rest) = line :: termLines rest := by
  simp only [lineEndings, List.mem_cons, List.not_mem_nil, or_false] at hending
  rcases hending with rfl | rfl
  · rw [termLines_append_newline, termLines_of_isTermLine h]
    rfl
  · have hreturn : line ++ "\r\n" = line ++ "\r" ++ "\n" := by
      rw [String.append_assoc]
      rfl
    rw [hreturn, termLines_append_newline, termLines_append_return h]
    rfl

/-- So is a line at the end of a text, ended or not. -/
theorem termLines_last {line final : String} (h : IsTermLine line) (hfinal : final ∈ "" :: lineEndings) :
    termLines (line ++ final) = [line] := by
  rcases List.mem_cons.mp hfinal with rfl | hfinal
  · rw [String.append_empty, termLines_of_isTermLine h]
  · have hended := termLines_ended h hfinal ""
    rw [String.append_empty] at hended
    exact hended

/-- **Joined lines are read back.** -/
theorem termLines_intercalate {ending final : String} (hending : ending ∈ lineEndings)
    (hfinal : final ∈ "" :: lineEndings) : ∀ {lines : List String}, (∀ line ∈ lines, IsTermLine line) →
      termLines (ending.intercalate lines ++ final) = lines
  | [], _ => by
    rw [String.intercalate_nil, String.empty_append]
    revert final
    decide +kernel
  | [line], h => by
    rw [String.intercalate_singleton]
    exact termLines_last (h line List.mem_cons_self) hfinal
  | line :: next :: rest, h => by
    have hrest : ∀ line ∈ next :: rest, IsTermLine line := by
      intro line hline
      exact h line (List.mem_cons_of_mem _ hline)
    rw [String.intercalate_cons_cons, String.append_assoc,
      termLines_ended (h line List.mem_cons_self) hending, termLines_intercalate hending hfinal hrest]

/-! ## 6. All laws together -/

/-- The laws of a reader of flat lists. -/
structure ListLaws (read : String → List String) : Prop where
  /-- What is read are the lines of the text, trimmed, less the blank ones. -/
  reads : ∀ text, read text =
    (((linesOf text).map trim).filter (fun line => !line.isEmpty)).map String.ofList
  /-- Where a text is cut at a line feed, both sides are read for themselves. -/
  cut : ∀ a b, read (a ++ "\n" ++ b) = read a ++ read b
  /-- What is read is in the form of lines. -/
  lines : ∀ text, ∀ line ∈ read text, IsTermLine line
  /-- Lines in that form are read back, whatever ends them and whether or not the last one is ended. -/
  joined : ∀ lines : List String, (∀ line ∈ lines, IsTermLine line) → ∀ ending ∈ lineEndings,
    ∀ final ∈ "" :: lineEndings, read (ending.intercalate lines ++ final) = lines
  /-- So reading what was read, joined again, makes no difference. -/
  again : ∀ text, ∀ ending ∈ lineEndings, ∀ final ∈ "" :: lineEndings,
    read (ending.intercalate (read text) ++ final) = read text

/-- **The laws of flat lists.** -/
theorem termLines_laws : ListLaws termLines := by
  refine ⟨termLines_eq_linesOf, termLines_append_newline, ?_, ?_, ?_⟩
  · intro text line hline
    exact isTermLine_of_mem_termLines hline
  · intro lines hlines ending hending final hfinal
    exact termLines_intercalate hending hfinal hlines
  · intro text ending hending final hfinal
    exact termLines_intercalate hending hfinal (fun line => isTermLine_of_mem_termLines)

/-- Lines with a carriage return and a blank inside of them are read back from a text in which a carriage
return and a line feed end all but the last one. -/
theorem termLines_laws_returns : (∀ line ∈ ["a\rb", "Spawn Bot"], IsTermLine line) ∧
    termLines ("\r\n".intercalate ["a\rb", "Spawn Bot"] ++ "") = ["a\rb", "Spawn Bot"] := by
  have hlines : ∀ line ∈ ["a\rb", "Spawn Bot"], IsTermLine line := by
    intro line hline
    have hread : ["a\rb", "Spawn Bot"] = termLines " a\rb\r\n\nSpawn Bot" := by decide +kernel
    rw [hread] at hline
    exact termLines_laws.lines _ line hline
  exact ⟨hlines, termLines_laws.joined _ hlines "\r\n" (by decide) "" (by decide)⟩

end KeywordGrammar.Text
