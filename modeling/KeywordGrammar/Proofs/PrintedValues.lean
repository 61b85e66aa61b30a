/-
# Printed values are read back

A value is printed with a layout and read by a reader that knows nothing of layouts.  This file proves
that the reader gives back the value that was printed (`read_text`), provided that

* the layout puts nothing but space between the parts of the text (`Layout.IsSpacing`),
* all numbers of the value are integers of 64 bits (`Value.isWhole`), and
* the reader may go as deep as the value is nested (`Value.nesting`).

`Reader.Takes` says what is carried through the induction over the value: the reader takes a text in
front of any rest.  The rest may be anything that does not go on with a number, since a number has no
end of its own; and the text must not begin like space or like a closing bracket, since a series looks
there to see whether it is at its end.
-/
import KeywordGrammar.Json.Printer
import KeywordGrammar.Proofs.JsonReaders
import Mathlib.Data.List.Forall2

namespace KeywordGrammar.Json

/-! ## 1. Which values, which layouts -/

/-- Whether an integer has 64 bits, with or without a sign. -/
def isWord64 (n : Int) : Bool := decide (-9223372036854775808 ≤ n) && decide (n ≤ maxSignificand)

mutual

/-- Whether all numbers of a value are integers of 64 bits. -/
def Value.isWhole : Value → Bool
  | .int n => isWord64 n
  | .float _ _ => false
  | .array items => areWhole items
  | .object members => haveWhole members
  | _ => true

/-- Whether all numbers of some items are integers of 64 bits. -/
def areWhole : List Value → Bool
  | [] => true
  | v :: rest => v.isWhole && areWhole rest

/-- Whether all numbers of some members are integers of 64 bits. -/
def haveWhole : List (String × Value) → Bool
  | [] => true
  | (_, v) :: rest => v.isWhole && haveWhole rest

end

theorem areWhole_iff {items : List Value} :
    areWhole items = true ↔ ∀ v ∈ items, v.isWhole = true := by
  induction items with
  | nil => simp [areWhole]
  | cons v rest ih => simp [areWhole, ih]

theorem haveWhole_iff {members : List (String × Value)} :
    haveWhole members = true ↔ ∀ m ∈ members, m.2.isWhole = true := by
  induction members with
  | nil => simp [haveWhole]
  | cons m rest ih => simp [haveWhole, ih]

mutual

/-- How many levels a value nests. -/
def Value.nesting : Value → Nat
  | .array items => nestingOfItems items + 1
  | .object members => nestingOfMembers members + 1
  | _ => 0

/-- How many levels some items nest at most. -/
def nestingOfItems : List Value → Nat
  | [] => 0
  | v :: rest => max v.nesting (nestingOfItems rest)

/-- How many levels the values of some members nest at most. -/
def nestingOfMembers : List (String × Value) → Nat
  | [] => 0
  | (_, v) :: rest => max v.nesting (nestingOfMembers rest)

end

/-- Whether a layout puts nothing but space around items and colons. -/
structure Layout.IsSpacing (layout : Layout) : Prop where
  lead : ∀ depth, ∀ c ∈ layout.lead depth, isSpace c = true
  colon : ∃ front back, layout.colon = front ++ ':' :: back ∧
    (∀ c ∈ front, isSpace c = true) ∧ ∀ c ∈ back, isSpace c = true

theorem Layout.isSpacing_indented : Layout.indented.IsSpacing := by
  refine ⟨fun depth c hc => ?_, [], [' '], rfl, by simp, List.forall_mem_singleton.mpr rfl⟩
  rcases List.mem_cons.mp hc with rfl | hc
  · rfl
  · rw [List.eq_of_mem_replicate hc]
    rfl

/-! ## 2. Strings -/

theorem hexValue?_digitChar {n : Nat} (h : n < 16) : hexValue? (Nat.digitChar n) = some n := by
  have hall : ∀ k < 16, hexValue? (Nat.digitChar k) = some k := by decide
  exact hall n h

/-- A control that is written by its number is read back. -/
theorem unicodeFrom_control {c : Char} (h : c.toNat < 0x20) (rest : List Char) :
    unicodeFrom ('0' :: '0' :: Nat.digitChar (c.toNat / 16) :: Nat.digitChar (c.toNat % 16) :: rest) =
      .ok (c, rest) := by
  have hhex : fourHex? '0' '0' (Nat.digitChar (c.toNat / 16)) (Nat.digitChar (c.toNat % 16)) =
      some c.toNat := by
    have hzero : hexValue? '0' = some 0 := by decide
    rw [fourHex?, hzero, hexValue?_digitChar (by omega), hexValue?_digitChar (by omega)]
    simp only [Option.some.injEq]
    omega
  have htrailing : isTrailing c.toNat = false := by
    simp only [isTrailing, Bool.and_eq_false_iff, decide_eq_false_iff_not]
    omega
  have hleading : isLeading c.toNat = false := by
    simp only [isLeading, Bool.and_eq_false_iff, decide_eq_false_iff_not]
    omega
  simp [unicodeFrom, hexFrom, hhex, htrailing, hleading]

/-- A character as it is written between quotes is read as that character. -/
theorem stringFrom_escaped (done : List Char) (c : Char) (rest : List Char) :
    stringFrom done (escaped c ++ rest) = stringFrom (c :: done) rest := by
  have hletter : ∀ e, e ≠ 'u' → escapeChar? e = some c →
      stringFrom done ('\\' :: e :: rest) = stringFrom (c :: done) rest := by
    intro e he hc
    exact stringFrom_backslash (by simp only [escapeFrom, if_neg he, hc])
  unfold escaped
  split
  · exact hletter '"' (by decide) rfl
  · exact hletter '\\' (by decide) rfl
  · exact hletter 'b' (by decide) rfl
  · exact hletter 'f' (by decide) rfl
  · exact hletter 'n' (by decide) rfl
  · exact hletter 'r' (by decide) rfl
  · exact hletter 't' (by decide) rfl
  · rename_i hquote hbackslash _ _ _ _ _
    split
    · rename_i hcontrol
      exact stringFrom_backslash (by
        simp only [escapeFrom]
        exact unicodeFrom_control hcontrol rest)
    · rename_i hcontrol
      rw [List.singleton_append, stringFrom, if_neg hquote, if_neg hbackslash, if_neg hcontrol]

theorem stringFrom_flatMap (rest : List Char) : ∀ (letters done : List Char),
    stringFrom done (letters.flatMap escaped ++ '"' :: rest) =
      .ok (String.ofList (done.reverse ++ letters), rest)
  | [], done => by
    rw [List.flatMap_nil, List.nil_append, stringFrom, List.append_nil]
    rfl
  | c :: letters, done => by
    rw [List.flatMap_cons, List.append_assoc, stringFrom_escaped, stringFrom_flatMap rest letters]
    simp

/-- A string is read back from behind its opening quote. -/
theorem stringFrom_stringText (s : String) (rest : List Char) :
    stringFrom [] (s.toList.flatMap escaped ++ '"' :: rest) = .ok (s, rest) := by
  rw [stringFrom_flatMap, List.reverse_nil, List.nil_append, String.ofList_toList]

/-! ## 3. Integers -/

/-- Whether a text does not go on with a number. -/
def EndsNumber (rest : List Char) : Prop :=
  ∀ c ∈ rest.head?, c.isDigit = false ∧ c ≠ '.' ∧ c ≠ 'e' ∧ c ≠ 'E'

theorem endsNumber_nil : EndsNumber [] := by
  intro c hc
  cases hc

theorem EndsNumber.startsWithDigit {rest : List Char} (h : EndsNumber rest) :
    startsWithDigit rest = false := by
  cases rest with
  | nil => rfl
  | cons c r => exact (h c rfl).1

theorem EndsNumber.fractionFrom {rest : List Char} (h : EndsNumber rest) :
    fractionFrom rest = .ok (none, rest) :=
  fractionFrom_of_head?_ne fun hpoint => (h '.' hpoint).2.1 rfl

theorem EndsNumber.exponentFrom {rest : List Char} (h : EndsNumber rest) :
    exponentFrom rest = .ok (none, rest) :=
  exponentFrom_of_head?_ne fun c hc => not_or.mpr (h c hc).2.2

/-- The first digit of a positive number is not zero. -/
theorem head?_toDigits {n : Nat} (h : 0 < n) : (Nat.toDigits 10 n).head? ≠ some '0' := by
  induction n using Nat.strongRecOn with
  | ind n ih =>
    by_cases hn : n < 10
    · rw [Nat.toDigits_of_lt_base hn, List.head?_cons]
      intro hzero
      have := Nat.digitChar_eq_zero.mp (Option.some.inj hzero)
      omega
    · rw [Nat.toDigits_of_base_le (by decide) (by omega),
        List.head?_append_of_ne_nil _ Nat.toDigits_ne_nil]
      exact ih (n / 10) (by omega) (by omega)

/-- The digits of a number in 64 bits are taken whole. -/
theorem takeDigits_eq : ∀ {digits : List Char} {start : Nat},
    Nat.ofDigitChars 10 digits start ≤ maxSignificand →
      takeDigits start (digits.map (fun c => c.toNat - 48)) =
        (Nat.ofDigitChars 10 digits start, 0)
  | [], _, _ => rfl
  | c :: digits, start, h => by
    have hstart : Nat.ofDigitChars 10 (c :: digits) start =
        Nat.ofDigitChars 10 digits (start * 10 + (c.toNat - 48)) := by
      rw [Nat.ofDigitChars_cons, Nat.mul_comm 10 start]
      rfl
    have hle : start * 10 + (c.toNat - 48) ≤ maxSignificand := by
      rw [hstart, Nat.ofDigitChars_eq_ofDigitChars_zero] at h
      have hpos : 0 < 10 ^ digits.length := Nat.pow_pos (by decide)
      have hmul := Nat.le_mul_of_pos_left (start * 10 + (c.toNat - 48)) hpos
      omega
    rw [List.map_cons, takeDigits, if_neg (Nat.not_lt.mpr hle), hstart]
    exact takeDigits_eq (hstart ▸ h)

/-- The digits of a number are read as that number. -/
theorem numberFrom_toDigits (negative : Bool) {n : Nat} (hn : n ≤ maxSignificand) {rest : List Char}
    (hrest : EndsNumber rest) : numberFrom negative (Nat.toDigits 10 n ++ rest) =
      .ok (integerValue negative n, rest) := by
  have hdigits : ∀ c ∈ Nat.toDigits 10 n, c.isDigit = true :=
    fun c hc => Nat.isDigit_of_mem_toDigits (by decide) (by decide) hc
  obtain ⟨hof, hafter⟩ := digits_append hdigits hrest.startsWithDigit
  obtain ⟨d, ds, hd⟩ := List.exists_cons_of_ne_nil (Nat.toDigits_ne_nil (n := n) (b := 10))
  have hstarts : startsWithDigit (Nat.toDigits 10 n ++ rest) = true := by
    rw [hd]
    exact hdigits d (by rw [hd]; exact List.mem_cons_self)
  -- a zero in front is the whole number, so no digit follows it
  have hzero : ¬ ((Nat.toDigits 10 n ++ rest).head? = some '0' ∧
      startsWithDigit (Nat.toDigits 10 n ++ rest).tail = true) := by
    rintro ⟨hhead, htail⟩
    rw [List.head?_append_of_ne_nil _ Nat.toDigits_ne_nil] at hhead
    by_cases hpos : 0 < n
    · exact head?_toDigits hpos hhead
    · have h0 : n = 0 := by omega
      subst h0
      rw [Nat.toDigits_zero] at htail
      rw [show (['0'] ++ rest).tail = rest from rfl, hrest.startsWithDigit] at htail
      cases htail
  have hnumeral : numeralFrom negative (Nat.toDigits 10 n ++ rest) =
      .ok (⟨negative, (Nat.toDigits 10 n).map (fun c => c.toNat - 48), none, none⟩, rest) := by
    simp only [numeralFrom, requiredDigits, hstarts, if_true, hof, hafter, if_neg hzero,
      hrest.fractionFrom, hrest.exponentFrom]
  have hvalue : takeDigits 0 ((Nat.toDigits 10 n).map (fun c => c.toNat - 48)) = (n, 0) := by
    rw [takeDigits_eq (by rw [Nat.ofDigitChars_ten_toDigits]; exact hn), Nat.ofDigitChars_ten_toDigits]
  simp [numberFrom, hnumeral, Numeral.value, hvalue]

/-- What may follow a number: the end, space, a comma or a closing bracket. -/
theorem endsNumber_cons {c : Char} {rest : List Char}
    (h : isSpace c = true ∨ c = ',' ∨ c = ']' ∨ c = '\x7d') : EndsNumber (c :: rest) := by
  intro d hd
  cases hd
  rcases h with h | rfl | rfl | rfl
  · simp only [isSpace, Bool.or_eq_true, beq_iff_eq] at h
    rcases h with ((rfl | rfl) | rfl) | rfl
    all_goals decide
  all_goals decide

theorem endsNumber_append {blanks rest : List Char} (hblanks : ∀ c ∈ blanks, isSpace c = true)
    (hrest : EndsNumber rest) : EndsNumber (blanks ++ rest) := by
  cases blanks with
  | nil => exact hrest
  | cons c r => exact endsNumber_cons (.inl (hblanks c List.mem_cons_self))

/-! ## 4. Readers that take a text -/

/-- Whether a character is the first of an item: no space and no end of a series. -/
def StartsItem (c : Char) : Prop := isSpace c = false ∧ c ≠ ']' ∧ c ≠ '\x7d'

/-- Whether a reader takes a text for `a`, whatever follows it; a number must be at its end. -/
structure Reader.Takes {α : Type} (reader : Reader α) (text : List Char) (a : α) : Prop where
  starts : ∃ c r, text = c :: r ∧ StartsItem c
  run : ∀ rest, EndsNumber rest → reader.run (text ++ rest) = .ok (a, rest)

/-- Whether the brackets of a series are told from what they enclose. -/
structure Brackets.Enclose (b : Brackets) : Prop where
  opening : StartsItem b.opening
  closing : b.closing = ']' ∨ b.closing = '\x7d'

namespace Brackets

theorem enclose_list : list.Enclose := ⟨⟨rfl, by decide, by decide⟩, .inl rfl⟩

theorem enclose_object : object.Enclose := ⟨⟨rfl, by decide, by decide⟩, .inr rfl⟩

variable {b : Brackets}

theorem Enclose.closing_ne_comma (hb : b.Enclose) : b.closing ≠ ',' := by
  rcases hb.closing with h | h
  all_goals
    rw [h]
    decide

theorem Enclose.isSpace_closing (hb : b.Enclose) : isSpace b.closing = false := by
  rcases hb.closing with h | h
  all_goals
    rw [h]
    rfl

end Brackets

namespace Reader

variable {α : Type} {b : Brackets} {item : Reader α} {layout : Layout}

theorem Takes.map {β : Type} {reader : Reader α} {text : List Char} {a : α} (h : reader.Takes text a)
    (f : α → β) : (reader.map f).Takes text (f a) :=
  ⟨h.starts, fun rest hrest => map_run_eq_ok_iff.mpr ⟨a, h.run rest hrest, rfl⟩⟩

/-- An item that is taken stands behind the space in front of it. -/
theorem Takes.itemFrom {text rest blanks : List Char} {a : α} (h : item.Takes text a)
    (hb : b.Enclose) (hblanks : ∀ c ∈ blanks, isSpace c = true) (hrest : EndsNumber rest) :
    ItemFrom b item (blanks ++ (text ++ rest)) a rest := by
  obtain ⟨c, r, hc, hspace, hlist, hobject⟩ := h.starts
  have hskip : skipSpace (blanks ++ (text ++ rest)) = text ++ rest := by
    rw [skipSpace_append hblanks, hc, List.cons_append, skipSpace_of_not_isSpace hspace]
  refine ⟨?_, by rw [hskip]; exact h.run rest hrest⟩
  rw [hskip, hc, List.cons_append, List.head?_cons, ne_eq, Option.some.injEq]
  rcases hb.closing with h | h
  · exact h ▸ hlist
  · exact h ▸ hobject

/-- What stands behind the first item of a printed series: each further item behind its comma. -/
def printedMore (lead : List Char) (texts : List (List Char)) : List Char :=
  texts.flatMap (fun text => ',' :: (lead ++ text))

section PrintedSeries

variable {lead blanks rest : List Char} {texts : List (List Char)} (hb : b.Enclose)
  (hlead : ∀ c ∈ lead, isSpace c = true) (hblanks : ∀ c ∈ blanks, isSpace c = true)
include hb hblanks

/-- What stands behind an item of a printed series is no part of a number. -/
theorem endsNumber_printedMore :
    EndsNumber (printedMore lead texts ++ (blanks ++ b.closing :: rest)) := by
  cases texts with
  | nil =>
    rw [printedMore, List.flatMap_nil, List.nil_append]
    exact endsNumber_append hblanks (endsNumber_cons (.inr (.inr hb.closing)))
  | cons text texts => exact endsNumber_cons (.inr (.inl rfl))

include hlead

/-- The items behind the first one of a printed series are read back. -/
theorem moreFrom_printedMore {l : List α} (h : List.Forall₂ item.Takes texts l) :
    moreFrom b item (printedMore lead texts ++ (blanks ++ b.closing :: rest)) = .ok (l, rest) := by
  induction h with
  | nil =>
    refine (moreFrom_eq_ok_iff hb.closing_ne_comma).mpr (.inl ⟨?_, rfl⟩)
    rw [printedMore, List.flatMap_nil, List.nil_append, skipSpace_append hblanks,
      skipSpace_of_not_isSpace hb.isSpace_closing]
  | @cons text a texts l htext _ ih =>
    refine (moreFrom_eq_ok_iff hb.closing_ne_comma).mpr (.inr ⟨_, a, _, l, ?_,
      htext.itemFrom hb hlead (endsNumber_printedMore hb hblanks), ih, rfl⟩)
    rw [printedMore, List.flatMap_cons, List.append_assoc, List.cons_append,
      skipSpace_of_not_isSpace (by rfl), ← printedMore, List.append_assoc]

end PrintedSeries

theorem intercalate_comma (lead text : List Char) (texts : List (List Char)) :
    List.intercalate [','] ((lead ++ text) :: texts.map (lead ++ ·)) =
      lead ++ (text ++ printedMore lead texts) := by
  induction texts generalizing text with
  | nil => simp [printedMore]
  | cons next texts ih =>
    rw [List.map_cons, List.intercalate_cons_cons, ih, printedMore, printedMore, List.flatMap_cons]
    simp only [List.append_assoc, List.cons_append, List.nil_append]

/-- A printed series is read back. -/
theorem Takes.series (hb : b.Enclose) (hlayout : layout.IsSpacing) (depth : Nat)
    {texts : List (List Char)} {l : List α} (h : List.Forall₂ item.Takes texts l) :
    (Reader.series b item).Takes (bracketed layout depth b.opening b.closing texts) l := by
  cases h with
  | nil =>
    refine ⟨⟨_, _, rfl, hb.opening⟩, fun rest _ =>
      series_run_eq_ok_iff.mpr ⟨b.closing :: rest, rfl, ?_⟩⟩
    exact itemsFrom_eq_ok_iff.mpr (.inl ⟨skipSpace_of_not_isSpace hb.isSpace_closing, rfl⟩)
  | @cons text a texts l htext hmore =>
    have hprinted : ∀ rest, bracketed layout depth b.opening b.closing (text :: texts) ++ rest =
        b.opening :: (layout.lead (depth + 1) ++ (text ++
          (printedMore (layout.lead (depth + 1)) texts ++
            (layout.lead depth ++ b.closing :: rest)))) := by
      intro rest
      rw [bracketed, if_neg (by simp), List.map_cons, intercalate_comma]
      simp only [List.append_assoc, List.cons_append, List.nil_append]
    refine ⟨⟨_, _, rfl, hb.opening⟩, fun rest _ => series_run_eq_ok_iff.mpr ⟨_, hprinted rest, ?_⟩⟩
    exact itemsFrom_eq_ok_iff.mpr (.inr ⟨a, _, l,
      htext.itemFrom hb (hlayout.lead _) (endsNumber_printedMore hb (hlayout.lead _)),
      moreFrom_printedMore hb (hlayout.lead _) (hlayout.lead _) hmore, rfl⟩)

/-- A printed member is read back, if the reader of its value skips the space in front of it. -/
theorem Takes.member {value : Reader α} (hlayout : layout.IsSpacing)
    (hskip : ∀ blanks s, (∀ c ∈ blanks, isSpace c = true) → value.run (blanks ++ s) = value.run s)
    (key : String) {text : List Char} {a : α} (h : value.Takes text a) :
    (Reader.member value).Takes (stringText key ++ layout.colon ++ text) (key, a) := by
  obtain ⟨front, back, hcolon, hfront, hback⟩ := hlayout.colon
  have hprinted : ∀ rest, stringText key ++ layout.colon ++ text ++ rest =
      '"' :: (key.toList.flatMap escaped ++ '"' :: (layout.colon ++ (text ++ rest))) := by
    intro rest
    simp only [stringText, List.append_assoc, List.cons_append, List.nil_append]
  refine ⟨⟨_, _, rfl, rfl, by decide, by decide⟩, fun rest hrest => member_run_eq_ok_iff.mpr
    ⟨_, _, back ++ (text ++ rest), hprinted rest, stringFrom_stringText key _, ?_, ?_⟩⟩
  · rw [hcolon, List.append_assoc, skipSpace_append hfront, List.cons_append,
      skipSpace_of_not_isSpace (by rfl)]
  · rw [hskip back _ hback, h.run rest hrest]

/-! ## 5. Values -/

theorem value_run_append {levels : Nat} {blanks : List Char} (s : List Char)
    (h : ∀ c ∈ blanks, isSpace c = true) :
    (value levels).run (blanks ++ s) = (value levels).run s := by
  cases levels with
  | zero => simp only [value, valueBy, skipSpace_append h]
  | succ levels => simp only [value, valueBy, skipSpace_append h]

/-- A scalar is taken whatever the depth. -/
theorem takes_scalar {levels : Nat} {c : Char} {text : List Char} {v : Value} (hc : StartsItem c)
    (hlist : c ≠ '[') (hobject : c ≠ '\x7b')
    (h : ∀ rest, EndsNumber rest → scalarFrom c (text ++ rest) = .ok (v, rest)) :
    (value levels).Takes (c :: text) v := by
  refine ⟨⟨c, text, rfl, hc⟩, fun rest hrest => ?_⟩
  have hrun : ∀ list object : Reader Value, (valueBy list object).run (c :: (text ++ rest)) =
      scalarFrom c (text ++ rest) := by
    intro list object
    have hlist' : c ≠ Brackets.list.opening := hlist
    have hobject' : c ≠ Brackets.object.opening := hobject
    simp only [valueBy, skipSpace_of_not_isSpace hc.1, if_neg hlist', if_neg hobject']
  rw [List.cons_append]
  cases levels with
  | zero => rw [value, hrun, h rest hrest]
  | succ levels => rw [value, hrun, h rest hrest]

theorem exists_bracketed (layout : Layout) (depth : Nat) (opening closing : Char)
    (items : List (List Char)) :
    ∃ text, bracketed layout depth opening closing items = opening :: text := by
  unfold bracketed
  split
  · exact ⟨_, rfl⟩
  · exact ⟨_, rfl⟩

theorem takes_array {levels : Nat} {text : List Char} {items : List Value}
    (h : (Reader.series .list (value levels)).Takes ('[' :: text) items) :
    (value (levels + 1)).Takes ('[' :: text) (.array items) :=
  ⟨h.starts, (h.map Value.array).run⟩

theorem takes_object {levels : Nat} {text : List Char} {members : List (String × Value)}
    (h : (Reader.series .object (Reader.member (value levels))).Takes ('\x7b' :: text) members) :
    (value (levels + 1)).Takes ('\x7b' :: text) (.object members) :=
  ⟨h.starts, (h.map Value.object).run⟩

theorem ne_of_isDigit {c d : Char} (hc : c.isDigit = true) (hd : d.isDigit = false) : c ≠ d := by
  rintro rfl
  exact absurd hc (by simp [hd])

/-- The digits of a number of 64 bits are taken. -/
theorem takes_toDigits {levels : Nat} {n : Nat} (hn : n ≤ maxSignificand) :
    (value levels).Takes (Nat.toDigits 10 n) (.int n) := by
  obtain ⟨d, ds, hd⟩ := List.exists_cons_of_ne_nil (Nat.toDigits_ne_nil (n := n) (b := 10))
  have hdigit : d.isDigit = true :=
    Nat.isDigit_of_mem_toDigits (by decide) (by decide) (hd ▸ List.mem_cons_self)
  have hspace : isSpace d = false := by
    simp [isSpace, ne_of_isDigit hdigit]
  rw [hd]
  refine takes_scalar ⟨hspace, ne_of_isDigit hdigit rfl, ne_of_isDigit hdigit rfl⟩
    (ne_of_isDigit hdigit rfl) (ne_of_isDigit hdigit rfl) fun rest hrest => ?_
  have hnumber := numberFrom_toDigits false hn hrest
  rw [hd, List.cons_append] at hnumber
  simp only [scalarFrom, if_neg (ne_of_isDigit hdigit (d := '"') rfl),
    if_neg (ne_of_isDigit hdigit (d := 'n') rfl), if_neg (ne_of_isDigit hdigit (d := 't') rfl),
    if_neg (ne_of_isDigit hdigit (d := 'f') rfl), if_neg (ne_of_isDigit hdigit (d := '-') rfl),
    if_pos hdigit, hnumber]
  rfl

/-- An integer of 64 bits is taken. -/
theorem takes_int {levels : Nat} {n : Int} (h : isWord64 n = true) :
    (value levels).Takes (toString n).toList (.int n) := by
  obtain ⟨hlower, hupper⟩ : -9223372036854775808 ≤ n ∧ n ≤ maxSignificand := by
    simpa [isWord64] using h
  cases n with
  | ofNat m =>
    rw [Int.toString_eq_repr, Int.repr, Nat.repr, String.toList_ofList]
    exact takes_toDigits (Int.ofNat_le.mp hupper)
  | negSucc m =>
    have htext : (toString (Int.negSucc m)).toList = '-' :: Nat.toDigits 10 (m + 1) := by
      rw [Int.toString_eq_repr, Int.repr, Nat.repr, String.toList_append]
      exact congrArg ('-' :: ·) String.toList_ofList
    rw [htext]
    refine takes_scalar ⟨rfl, by decide, by decide⟩ (by decide) (by decide) fun rest hrest => ?_
    have hm : m + 1 ≤ maxSignificand / 2 + 1 := by
      rw [maxSignificand]
      omega
    have hnumber := numberFrom_toDigits true (n := m + 1) (by rw [maxSignificand] at *; omega) hrest
    have hvalue : integerValue true (m + 1) = .int (Int.negSucc m) := by
      rw [integerValue, if_neg (by decide), if_neg (by omega)]
      rfl
    rw [hvalue] at hnumber
    exact hnumber

mutual

/-- The text of a value is read as that value. -/
theorem takes_textAt {layout : Layout} (hlayout : layout.IsSpacing) (depth : Nat) :
    ∀ (v : Value) {levels : Nat}, v.isWhole = true → v.nesting ≤ levels →
      (value levels).Takes (v.textAt layout depth) v
  | .null, _, _, _ => takes_scalar ⟨rfl, by decide, by decide⟩ (by decide) (by decide) fun _ _ => rfl
  | .bool true, _, _, _ =>
    takes_scalar ⟨rfl, by decide, by decide⟩ (by decide) (by decide) fun _ _ => rfl
  | .bool false, _, _, _ =>
    takes_scalar ⟨rfl, by decide, by decide⟩ (by decide) (by decide) fun _ _ => rfl
  | .int n, _, h, _ => takes_int (by simpa [Value.isWhole] using h)
  | .float negative magnitude, _, h, _ => by simp [Value.isWhole] at h
  | .string s, _, _, _ => takes_scalar ⟨rfl, by decide, by decide⟩ (by decide) (by decide)
    fun rest _ => by
      have hstring := stringFrom_stringText s rest
      simp only [scalarFrom, if_true, List.append_assoc, List.cons_append, List.nil_append, hstring]
  | .array items, 0, _, h => by simp [Value.nesting] at h
  | .array items, levels + 1, hwhole, h => by
    have htexts := takes_itemTexts hlayout (depth + 1) items
      (by simpa [Value.isWhole] using hwhole) (by simpa [Value.nesting] using h)
    have hseries := Takes.series Brackets.enclose_list hlayout depth htexts
    obtain ⟨text, htext⟩ := exists_bracketed layout depth '[' ']' (itemTexts layout (depth + 1) items)
    rw [Value.textAt, htext]
    exact takes_array (htext ▸ hseries)
  | .object members, 0, _, h => by simp [Value.nesting] at h
  | .object members, levels + 1, hwhole, h => by
    have htexts := takes_memberTexts hlayout (depth + 1) members
      (by simpa [Value.isWhole] using hwhole) (by simpa [Value.nesting] using h)
    have hseries := Takes.series Brackets.enclose_object hlayout depth htexts
    obtain ⟨text, htext⟩ :=
      exists_bracketed layout depth '\x7b' '\x7d' (memberTexts layout (depth + 1) members)
    rw [Value.textAt, htext]
    exact takes_object (htext ▸ hseries)

theorem takes_itemTexts {layout : Layout} (hlayout : layout.IsSpacing) (depth : Nat) :
    ∀ (items : List Value) {levels : Nat}, areWhole items = true → nestingOfItems items ≤ levels →
      List.Forall₂ (value levels).Takes (itemTexts layout depth items) items
  | [], _, _, _ => .nil
  | v :: rest, _, hwhole, h => by
    obtain ⟨hv, hrest⟩ : v.isWhole = true ∧ areWhole rest = true := by
      simpa [areWhole] using hwhole
    obtain ⟨hvn, hrestn⟩ := Nat.max_le.mp h
    exact .cons (takes_textAt hlayout depth v hv hvn) (takes_itemTexts hlayout depth rest hrest hrestn)

theorem takes_memberTexts {layout : Layout} (hlayout : layout.IsSpacing) (depth : Nat) :
    ∀ (members : List (String × Value)) {levels : Nat}, haveWhole members = true →
      nestingOfMembers members ≤ levels →
      List.Forall₂ (Reader.member (value levels)).Takes (memberTexts layout depth members) members
  | [], _, _, _ => .nil
  | (key, v) :: rest, _, hwhole, h => by
    obtain ⟨hv, hrest⟩ : v.isWhole = true ∧ haveWhole rest = true := by
      simpa [haveWhole] using hwhole
    obtain ⟨hvn, hrestn⟩ := Nat.max_le.mp h
    exact .cons (Takes.member hlayout (fun _ s hs => value_run_append s hs) key
      (takes_textAt hlayout depth v hv hvn)) (takes_memberTexts hlayout depth rest hrest hrestn)

end

end Reader

/-- The text of a value is read as that value, also if space follows it. -/
theorem read_text {layout : Layout} (hlayout : layout.IsSpacing) {v : Value} (hv : v.isWhole = true)
    {depth : Nat} (hdepth : v.nesting ≤ depth) {blanks : String}
    (hblanks : ∀ c ∈ blanks.toList, isSpace c = true) :
    Value.read depth (v.text layout ++ blanks) = .ok v := by
  refine readAll_eq_ok_iff.mpr ⟨blanks.toList, ?_, skipSpace_eq_nil_iff.mpr hblanks⟩
  have hrest : EndsNumber blanks.toList := by
    have := endsNumber_append hblanks endsNumber_nil
    rwa [List.append_nil] at this
  rw [String.toList_append, Value.text, String.toList_ofList]
  exact (Reader.takes_textAt hlayout 0 v hv hdepth).run _ hrest

end KeywordGrammar.Json
