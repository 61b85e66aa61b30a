/-
# Truncated mappings

A mapping ends with the closing brace of its object, and space may follow.  A file that breaks off before
that brace is not loaded, wherever it breaks off: between two bytes of a character, in a string or a
number, in a value that is ignored or behind one that is complete.  For a file that were loaded would
end with the closing brace of its own object, and the reader, which does not look behind that brace
(`endsAt_reader`), would have stopped there in the whole file too.

So what is loaded is never a part of what the whole file holds.
-/
import KeywordGrammar.Disk
import KeywordGrammar.Proofs.Lookahead
import KeywordGrammar.Proofs.Mappings

namespace KeywordGrammar

/-! ## 1. Bytes and texts -/

theorem Disk.textOf_eq_ok_iff {bytes : ByteArray} {text : String} :
    Disk.textOf bytes = .ok text ↔ bytes = text.toUTF8 := by
  unfold textOf String.fromUTF8?
  by_cases h : bytes.IsValidUTF8
  · simp only [dif_pos h, Except.ok.injEq, ← String.toByteArray_inj]
    exact Iff.rfl
  · simp only [dif_neg h, reduceCtorEq, false_iff]
    rintro rfl
    exact h text.isValidUTF8

theorem Disk.textOf_eq_error_iff {bytes : ByteArray} {fault : FileFault} :
    Disk.textOf bytes = .error fault ↔ fault = .notUtf8 ∧ ∀ text : String, bytes ≠ text.toUTF8 := by
  simp only [ne_eq, ← Disk.textOf_eq_ok_iff]
  unfold textOf
  cases String.fromUTF8? bytes with
  | none => simp [eq_comm]
  | some text => simp

/-- Bytes that are a text and begin another one begin it with whole characters. -/
theorem prefix_of_toUTF8_append {cut text : String} {rest : ByteArray}
    (h : cut.toUTF8 ++ rest = text.toUTF8) : cut.toList <+: text.toList := by
  refine List.isPrefix_of_utf8Encode_append_eq_utf8Encode rest ?_
  rw [String.utf8Encode_toList, String.utf8Encode_toList]
  exact h

namespace Mapping

open Json

/-! ## 2. Truncated texts -/

/-- A mapping ends at the closing brace of its object. -/
theorem endsAt_reader : EndsAt '\x7d' reader.run := by
  have hvalues : LooksAhead valuesReader.run :=
    (Reader.looksAhead_value (nestingLimit - 1)).of_iff narrows_valuesReader
  intro s l v h
  obtain ⟨r, hs, hr⟩ := Reader.series_run_eq_ok_iff.mp (reader_run_eq_ok_iff.mp h)
  obtain ⟨blanks, rfl, hblanks⟩ := exists_blanks_of_skipSpace hs
  obtain ⟨front, rfl, hfront⟩ := Reader.endsAt_itemsFrom (b := .object)
    (Reader.looksAhead_member hvalues) (by decide) _ _ _ hr
  refine ⟨blanks ++ Brackets.object.opening :: front, by simp [Brackets.object], fun rest => ?_⟩
  rw [List.append_assoc, reader_run_eq_ok_iff, List.cons_append, hblanks]
  exact Reader.series_run_eq_ok_iff.mpr ⟨_, rfl, hfront rest⟩

/-- The entries of a mapping are those of its object; only space follows. -/
theorem read_eq_ok_iff_run {text : String} {entries : List Entry} : read text = .ok entries ↔
    ∃ members rest, reader.run text.toList = .ok (members, rest) ∧
      (∀ c ∈ rest, isSpace c = true) ∧
      entries = (Dictionary.ofList members).entries.map (fun e => ⟨e.1, e.2⟩) := by
  simp only [read_eq_ok_iff, ← readAll_reader_iff, readAll_eq_ok_iff, skipSpace_eq_nil_iff]
  constructor
  · rintro ⟨members, ⟨rest, hrun, hend⟩, hentries⟩
    exact ⟨members, rest, hrun, hend, hentries⟩
  · rintro ⟨members, rest, hrun, hend, hentries⟩
    exact ⟨members, ⟨rest, hrun, hend⟩, hentries⟩

/-- A text that is read has a closing brace with nothing but space behind it.  Nothing is read if the text
is cut off in front of that brace, and the same if it is cut off behind it. -/
theorem exists_closing_of_read {text : String} {entries : List Entry} (h : read text = .ok entries) :
    ∃ front blanks : String, text = front ++ "\x7d" ++ blanks ∧
      (∀ c ∈ blanks.toList, isSpace c = true) ∧
      (∀ cut : String, cut.toList <+: front.toList → ∀ fewer, read cut ≠ .ok fewer) ∧
      ∀ other : String, (∀ c ∈ other.toList, isSpace c = true) →
        read (front ++ "\x7d" ++ other) = .ok entries := by
  obtain ⟨members, rest, hrun, hend, rfl⟩ := read_eq_ok_iff_run.mp h
  obtain ⟨front, htext, hfront⟩ := endsAt_reader _ _ _ hrun
  refine ⟨String.ofList front, String.ofList rest, ?_, by simpa using hend, ?_, ?_⟩
  · rw [← String.toList_inj, htext]
    simp
  · intro cut hcut fewer hread
    obtain ⟨_, _, hrun', -⟩ := read_eq_ok_iff_run.mp hread
    rw [String.toList_ofList] at hcut
    exact endsAt_reader.not_ok_of_prefix (htext ▸ hrun) hcut hrun'
  · intro other hother
    refine read_eq_ok_iff_run.mpr ⟨members, other.toList, ?_, hother, rfl⟩
    simpa using hfront other.toList

/-! ## 3. Truncated files -/

section Loading

variable {files : FileReader} {dir : DataDirectory} {file k m : String} {s : Source}

/-- **A truncated mapping never loads.**  The bytes of a file that is loaded are a text with a closing brace
and nothing but space behind it.  Any number of the bytes in front of that brace, alone in the file, are
not loaded: if they end between two characters, they are malformed JSON for a mapping; and if they end
within one, they are no text.  The whole file is loaded as soon as the brace is there, whatever space is
left of what follows. -/
theorem load_truncated {bytes : ByteArray} (hread : dir.read files file = Disk.textOf bytes)
    (hload : Source.load files dir ⟨file, .mapping k m⟩ = .ok s) :
    ∃ front blanks : String, bytes = (front ++ "\x7d" ++ blanks).toUTF8 ∧
      (∀ c ∈ blanks.toList, isSpace c = true) ∧
      (∀ (others : FileReader) (cut gone : ByteArray), cut ++ gone = front.toUTF8 →
        dir.read others file = Disk.textOf cut →
          (∃ text : String, text.toList <+: front.toList ∧ cut = text.toUTF8 ∧
            ∃ fault position, Source.load others dir ⟨file, .mapping k m⟩ =
              .error (.json (dir.join file) fault position)) ∨
          ((∀ text : String, cut ≠ text.toUTF8) ∧ Source.load others dir ⟨file, .mapping k m⟩ =
            .error (.file (dir.join file) .notUtf8))) ∧
      ∀ (others : FileReader) (other : String), (∀ c ∈ other.toList, isSpace c = true) →
        dir.read others file = Disk.textOf (front ++ "\x7d" ++ other).toUTF8 →
          Source.load others dir ⟨file, .mapping k m⟩ = .ok s := by
  obtain ⟨text, htext, ⟨hkind, -⟩ | ⟨_, _, entries, hkind, hentries, rfl⟩⟩ :=
    Source.load_eq_ok_iff.mp hload
  · cases hkind
  cases hkind
  obtain rfl := Disk.textOf_eq_ok_iff.mp (hread.symm.trans htext)
  obtain ⟨front, blanks, rfl, hblanks, hcut, hother⟩ := exists_closing_of_read hentries
  refine ⟨front, blanks, rfl, hblanks, fun others cut gone hgone hread' => ?_,
    fun others other hspace hread' => ?_⟩
  · cases htext' : Disk.textOf cut with
    | error fault =>
      obtain ⟨rfl, hnone⟩ := Disk.textOf_eq_error_iff.mp htext'
      exact .inr ⟨hnone, by simp only [Source.load, hread', htext']⟩
    | ok text =>
      obtain rfl := Disk.textOf_eq_ok_iff.mp htext'
      have hprefix := prefix_of_toUTF8_append hgone
      refine .inl ⟨text, hprefix, rfl, ?_⟩
      rw [load_eq (hread'.trans htext')]
      cases hfewer : read text with
      | error e => exact ⟨e.1, e.2, rfl⟩
      | ok fewer => exact absurd hfewer (hcut text hprefix fewer)
  · have htext' := hread'.trans (Disk.textOf_eq_ok_iff.mpr rfl)
    exact Source.load_eq_ok_iff.mpr
      ⟨_, htext', .inr ⟨_, _, entries, rfl, hother other hspace, rfl⟩⟩

end Loading

/-- A mapping of 13 bytes, of which two are one character. -/
def accentText : String := "\x7b\"é\": [\"1\"]\x7d"

/-- The file of the first bytes of `accentText`, and no other. -/
def accentFiles (count : Nat) : FileReader := fun path =>
  if path = "data/m.json" then Disk.textOf (accentText.toUTF8.extract 0 count) else .error .notFound

/-- All its bytes are loaded, and no smaller number of them. -/
theorem load_truncated_accent :
    (∃ s, Source.load (accentFiles 13) (.folder "data") ⟨"m.json", .mapping "key" "value"⟩ = .ok s) ∧
      ∀ count < 13, ∃ failure, Source.load (accentFiles count) (.folder "data")
        ⟨"m.json", .mapping "key" "value"⟩ = .error failure := by
  have hpath : Path.join "data" "m.json" = "data/m.json" := by decide +kernel
  have hread : ∀ count, (DataDirectory.folder "data").read (accentFiles count) "m.json" =
      Disk.textOf (accentText.toUTF8.extract 0 count) := fun count => by
    simp only [DataDirectory.read, DataDirectory.join, accentFiles, hpath, if_true]
  have hload : Source.load (accentFiles 13) (.folder "data") ⟨"m.json", .mapping "key" "value"⟩ =
      .ok (.mapping "key" "value" [⟨"é", ["1"]⟩]) := by decide +kernel
  refine ⟨⟨_, hload⟩, fun count hcount => ?_⟩
  obtain ⟨front, blanks, hbytes, hblanks, hcut, -⟩ := load_truncated (hread 13) hload
  have hwhole : accentText.toUTF8.extract 0 13 = accentText.toUTF8 := by decide +kernel
  have htext : "\x7b\"é\": [\"1\"]".toList ++ ['\x7d'] = front.toList ++ '\x7d' :: blanks.toList := by
    have heq := String.toByteArray_inj.mp (hwhole.symm.trans hbytes)
    simpa [accentText] using congrArg String.toList heq
  -- the text ends with its brace, so nothing follows it
  have hfront : front = "\x7b\"é\": [\"1\"]" := by
    rcases List.eq_nil_or_concat' blanks.toList with hnil | ⟨others, c, hc⟩
    · rw [hnil] at htext
      exact (String.toList_inj.mp (List.append_cancel_right htext)).symm
    · rw [hc] at htext hblanks
      rw [← List.cons_append, ← List.append_assoc] at htext
      have hlast : '\x7d' = c := by simpa using (List.append_inj' htext rfl).2
      have hspace := hblanks c (by simp)
      rw [← hlast] at hspace
      cases hspace
  have hparts : accentText.toUTF8.extract 0 count ++ accentText.toUTF8.extract count 12 =
      front.toUTF8 := by
    rw [← ByteArray.extract_eq_extract_append_extract count (Nat.zero_le _) (by omega), hfront]
    decide +kernel
  rcases hcut (accentFiles count) _ _ hparts (hread count) with ⟨-, -, -, fault, position, herror⟩ | ⟨-, herror⟩
  · exact ⟨_, herror⟩
  · exact ⟨_, herror⟩

end Mapping

end KeywordGrammar
