/-
# What a reader has read

A reader of JSON that does not stop has followed one way through its cases.  Here that way is said for
each reader of something nested, as an equivalence: a list of items was read iff they stand one behind
the other with commas between them, and a member iff a key, a colon and a value stand there.  What is
proved about readers later, printed values being read back or one reader accepting less than another,
goes through these equivalences and opens no reader again.
-/
import KeywordGrammar.Json.Nested
import Mathlib.Data.List.TakeWhile

namespace KeywordGrammar.Json

/-! ## 1. Space -/

theorem skipSpace_of_not_isSpace {c : Char} {r : List Char} (h : isSpace c = false) :
    skipSpace (c :: r) = c :: r := by
  rw [skipSpace, List.dropWhile_cons, if_neg (by simp [h])]

theorem skipSpace_append {blanks r : List Char} (h : ∀ c ∈ blanks, isSpace c = true) :
    skipSpace (blanks ++ r) = skipSpace r := by
  rw [skipSpace, List.dropWhile_append_of_pos h, ← skipSpace]

theorem skipSpace_eq_nil_iff {s : List Char} : skipSpace s = [] ↔ ∀ c ∈ s, isSpace c = true :=
  List.dropWhile_eq_nil_iff

/-! ## 2. Words, strings and numbers -/

/-- A word is read iff its letters stand there. -/
theorem wordFrom_eq_ok_iff {letters : List Char} {value x : Value} {s v : List Char} :
    wordFrom letters value s = .ok (x, v) ↔ s = letters ++ v ∧ x = value := by
  induction letters generalizing s with
  | nil => simp [wordFrom, and_comm, eq_comm]
  | cons l more ih =>
    cases s with
    | nil => simp [wordFrom, stop]
    | cons c s =>
      rw [wordFrom, List.cons_append, List.cons.injEq]
      split
      · rename_i hc
        rw [ih, and_assoc]
        simp [hc]
      · rename_i hc
        simp [stop, hc]

/-- An escape is one character of the string. -/
theorem stringFrom_backslash {done r t : List Char} {c : Char} (h : escapeFrom r = .ok (c, t)) :
    stringFrom done ('\\' :: r) = stringFrom (c :: done) t := by
  rw [stringFrom, if_neg (by decide), if_pos rfl]
  split
  · rename_i he
    rw [h] at he
    cases he
  · rename_i he
    rw [h] at he
    cases he
    rfl

/-- Digits end in front of any character that is none. -/
theorem digits_append {front rest : List Char} (hfront : ∀ c ∈ front, c.isDigit = true)
    (hrest : startsWithDigit rest = false) :
    digitsOf (front ++ rest) = front.map (fun c => c.toNat - 48) ∧
      afterDigits (front ++ rest) = rest := by
  have hend : rest.takeWhile Char.isDigit = [] ∧ rest.dropWhile Char.isDigit = rest := by
    cases rest with
    | nil => exact ⟨rfl, rfl⟩
    | cons c r =>
      have hc : c.isDigit = false := hrest
      simp [hc]
  constructor
  · rw [digitsOf, List.takeWhile_append_of_pos hfront, hend.1, List.append_nil]
  · rw [afterDigits, List.dropWhile_append_of_pos hfront, hend.2]

theorem fractionFrom_of_head?_ne {s : List Char} (h : s.head? ≠ some '.') :
    fractionFrom s = .ok (none, s) := by
  unfold fractionFrom
  split
  · exact absurd rfl h
  · rfl

theorem exponentFrom_of_head?_ne {s : List Char} (h : ∀ c ∈ s.head?, ¬ (c = 'e' ∨ c = 'E')) :
    exponentFrom s = .ok (none, s) := by
  cases s with
  | nil => rfl
  | cons c r => rw [exponentFrom, if_neg (h c rfl)]

namespace Reader

variable {α β : Type} {b : Brackets} {item : Reader α} {s u v : List Char} {l : List α}

theorem run_nil_ne_ok (reader : Reader α) {a : α} : reader.run [] ≠ .ok (a, v) := by
  intro h
  have := reader.shrinks h
  simp at this

/-! ## 3. Series -/

/-- Whether an item stands behind the space at the front of a text, and not the end of the series; `u`
is left behind the item. -/
def ItemFrom (b : Brackets) (item : Reader α) (s : List Char) (a : α) (u : List Char) : Prop :=
  (skipSpace s).head? ≠ some b.closing ∧ item.run (skipSpace s) = .ok (a, u)

theorem length_lt_of_itemFrom {a : α} (h : ItemFrom b item s a u) : u.length < s.length := by
  have h₁ := length_skipSpace_le s
  have h₂ := item.shrinks h.2
  omega

/-- The rest of a series is its closing bracket, or a comma, an item and again the rest of a series. -/
theorem moreFrom_eq_ok_iff (hb : b.closing ≠ ',') : moreFrom b item s = .ok (l, v) ↔
    (skipSpace s = b.closing :: v ∧ l = []) ∨
      ∃ r a u rest, skipSpace s = ',' :: r ∧ ItemFrom b item r a u ∧
        moreFrom b item u = .ok (rest, v) ∧ l = a :: rest := by
  constructor
  · intro h
    rw [moreFrom] at h
    split at h
    · cases h
    · rename_i c r hs
      split at h
      · rename_i hc
        cases h
        exact .inl ⟨by rw [hs, hc], rfl⟩
      · split at h
        · rename_i hc
          subst hc
          split at h
          · cases h
          · rename_i d t hr
            split at h
            · cases h
            · rename_i hd
              split at h
              · cases h
              · rename_i a u hi
                split at h
                · cases h
                · rename_i rest v' hm
                  cases h
                  refine .inr ⟨r, a, u, rest, hs, ⟨?_, by rw [hr, hi]⟩, hm, rfl⟩
                  rw [hr]
                  simpa using hd
        · cases h
  · rintro (⟨hs, rfl⟩ | ⟨r, a, u, rest, hs, ⟨hhead, hi⟩, hm, rfl⟩)
    · rw [moreFrom]
      split
      · rename_i h
        rw [hs] at h
        cases h
      · rename_i h
        rw [hs] at h
        cases h
        rw [if_pos rfl]
    · rw [moreFrom]
      split
      · rename_i h
        rw [hs] at h
        cases h
      · rename_i h
        rw [hs] at h
        cases h
        rw [if_neg (Ne.symm hb), if_pos rfl]
        split
        · rename_i hr
          rw [hr] at hi
          exact absurd hi item.run_nil_ne_ok
        · rename_i d t hr
          rw [hr] at hhead hi
          rw [if_neg (by simpa using hhead)]
          split
          · rename_i h
            rw [hi] at h
            cases h
          · rename_i h
            rw [hi] at h
            cases h
            rw [hm]

/-- A series is empty, or an item and the rest of a series. -/
theorem itemsFrom_eq_ok_iff : itemsFrom b item s = .ok (l, v) ↔
    (skipSpace s = b.closing :: v ∧ l = []) ∨
      ∃ a u rest, ItemFrom b item s a u ∧ moreFrom b item u = .ok (rest, v) ∧ l = a :: rest := by
  constructor
  · intro h
    unfold itemsFrom at h
    split at h
    · cases h
    · rename_i c r hs
      split at h
      · rename_i hc
        cases h
        exact .inl ⟨by rw [hs, hc], rfl⟩
      · rename_i hc
        split at h
        · cases h
        · rename_i a u hi
          split at h
          · cases h
          · rename_i rest v' hm
            cases h
            refine .inr ⟨a, u, rest, ⟨?_, by rw [hs, hi]⟩, hm, rfl⟩
            rw [hs]
            simpa using hc
  · rintro (⟨hs, rfl⟩ | ⟨a, u, rest, ⟨hhead, hi⟩, hm, rfl⟩)
    · simp only [itemsFrom, hs, if_true]
    · cases hs : skipSpace s with
      | nil =>
        rw [hs] at hi
        exact absurd hi item.run_nil_ne_ok
      | cons c r =>
        rw [hs] at hhead hi
        have hc : c ≠ b.closing := by simpa using hhead
        simp only [itemsFrom, hs, if_neg hc, hi, hm]

theorem series_run_eq_ok_iff : (series b item).run s = .ok (l, v) ↔
    ∃ r, s = b.opening :: r ∧ itemsFrom b item r = .ok (l, v) := by
  show seriesFrom b item s = _ ↔ _
  constructor
  · intro h
    unfold seriesFrom at h
    split at h
    · cases h
    · rename_i c r
      split at h
      · rename_i hc
        exact ⟨r, by rw [hc], h⟩
      · cases h
  · rintro ⟨r, rfl, h⟩
    rw [seriesFrom, if_pos rfl, h]

/-! ## 4. Members and conversions -/

/-- A member is a key between quotes, a colon and a value. -/
theorem member_run_eq_ok_iff {value : Reader α} {p : String × α} :
    (member value).run s = .ok (p, v) ↔ ∃ r t u, s = '"' :: r ∧ stringFrom [] r = .ok (p.1, t) ∧
      skipSpace t = ':' :: u ∧ value.run u = .ok (p.2, v) := by
  constructor
  · intro h
    simp only [member] at h
    split at h
    · cases h
    · rename_i c r
      split at h
      · rename_i hc
        split at h
        · cases h
        · rename_i key t hkey
          split at h
          · cases h
          · rename_i d u hd
            split at h
            · rename_i hcolon
              split at h
              · cases h
              · rename_i a v' hvalue
                cases h
                exact ⟨r, t, u, by rw [hc], hkey, by rw [hd, hcolon], hvalue⟩
            · cases h
      · cases h
  · rintro ⟨r, t, u, rfl, hkey, hcolon, hvalue⟩
    simp only [member, hkey, hcolon, hvalue, if_true]

theorem map_run_eq_ok_iff {reader : Reader α} {f : α → β} {x : β} :
    (reader.map f).run s = .ok (x, v) ↔ ∃ a, reader.run s = .ok (a, v) ∧ f a = x := by
  constructor
  · intro h
    simp only [map] at h
    split at h
    · rename_i a r ha
      cases h
      exact ⟨a, ha, rfl⟩
    · cases h
  · rintro ⟨a, ha, rfl⟩
    simp only [map, ha]

/-! ## 5. Objects -/

/-- What a numeral denotes is a number. -/
theorem isNumber_of_numberFrom {negative : Bool} {x : Value} (h : numberFrom negative s = .ok (x, v)) :
    (∃ n, x = .int n) ∨ ∃ sign magnitude, x = .float sign magnitude := by
  unfold numberFrom at h
  split at h
  · cases h
  · rename_i n r hn
    split at h
    · rename_i y hy
      cases h
      unfold Numeral.value floatValue integerValue at hy
      grind
    · cases h

/-- A scalar is no object. -/
theorem scalarFrom_ne_object {c : Char} {members : List (String × Value)} :
    scalarFrom c s ≠ .ok (.object members, v) := by
  intro h
  unfold scalarFrom at h
  split at h
  · split at h
    · cases h
    · cases h
  · repeat' split at h
    · cases (wordFrom_eq_ok_iff.mp h).2
    · cases (wordFrom_eq_ok_iff.mp h).2
    · cases (wordFrom_eq_ok_iff.mp h).2
    · rcases isNumber_of_numberFrom h with ⟨n, hn⟩ | ⟨sign, magnitude, hn⟩
      · cases hn
      · cases hn
    · rcases isNumber_of_numberFrom h with ⟨n, hn⟩ | ⟨sign, magnitude, hn⟩
      · cases hn
      · cases hn
    · cases h

/-- An object is a series of members between braces; its values may nest one level less. -/
theorem value_run_eq_object_iff {depth : Nat} {members : List (String × Value)} :
    (value (depth + 1)).run s = .ok (.object members, v) ↔
      (series .object (member (value depth))).run (skipSpace s) = .ok (members, v) := by
  constructor
  · intro h
    simp only [value, valueBy] at h
    split at h
    · cases h
    · rename_i c r hs
      rw [hs]
      split at h
      · obtain ⟨items, -, heq⟩ := map_run_eq_ok_iff.mp h
        cases heq
      · split at h
        · obtain ⟨members', hrun, heq⟩ := map_run_eq_ok_iff.mp h
          cases heq
          exact hrun
        · exact absurd h scalarFrom_ne_object
  · intro h
    obtain ⟨r, hs, -⟩ := series_run_eq_ok_iff.mp h
    rw [hs] at h
    have hlist : Brackets.object.opening ≠ Brackets.list.opening := by decide
    simp only [value, valueBy, hs, if_neg hlist, if_true]
    exact map_run_eq_ok_iff.mpr ⟨members, h, rfl⟩

end Reader

/-! ## 6. Whole texts -/

theorem readAll_eq_ok_iff {α : Type} {reader : Reader α} {text : String} {a : α} :
    readAll reader text = .ok a ↔ ∃ r, reader.run text.toList = .ok (a, r) ∧ skipSpace r = [] := by
  constructor
  · intro h
    simp only [readAll] at h
    cases hrun : reader.run text.toList with
    | error e =>
      rw [hrun] at h
      cases h
    | ok p =>
      obtain ⟨x, r⟩ := p
      rw [hrun] at h
      cases hend : skipSpace r with
      | nil =>
        simp only [hend] at h
        have hx : x = a := Except.ok.inj h
        exact ⟨r, by rw [hx], hend⟩
      | cons c t =>
        simp only [hend] at h
        cases h
  · rintro ⟨r, hr, hend⟩
    simp only [readAll, hr, hend]
    rfl

end KeywordGrammar.Json
