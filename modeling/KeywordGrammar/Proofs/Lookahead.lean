/-
# How far ahead a reader looks

A reader of JSON takes the front of a text and leaves the rest, and of the rest it has seen no more than
one character: a number goes on for as long as there are digits, and everything else shows its end by
itself.  So the same front is read in the same way whatever comes behind that character
(`LooksAhead`), and a string, a list or an object does not even look at it (`EndsAt`).

This is proved for each reader from the parts that it is made of, for a series by induction on the
length of the text and for a value by induction on the depth that is left to it (`looksAhead_value`).
-/
import KeywordGrammar.Proofs.JsonReaders

namespace KeywordGrammar.Json

variable {α : Type}

/-! ## 1. Fronts -/

/-- Whether the characters in front of what is left decide what is read, with the first one of what is
left. -/
def LooksAhead (scan : List Char → Outcome α) : Prop :=
  ∀ s a v, scan s = .ok (a, v) → ∃ front, s = front ++ v ∧
    ∀ rest, rest.head? = v.head? → scan (front ++ rest) = .ok (a, rest)

/-- Whether the last character in front of what is left is `c`, and they alone decide what is read. -/
def EndsAt (c : Char) (scan : List Char → Outcome α) : Prop :=
  ∀ s a v, scan s = .ok (a, v) → ∃ front, s = front ++ c :: v ∧
    ∀ rest, scan (front ++ c :: rest) = .ok (a, rest)

variable {scan : List Char → Outcome α}

theorem EndsAt.looksAhead {c : Char} (h : EndsAt c scan) : LooksAhead scan := by
  intro s a v hs
  obtain ⟨front, rfl, hfront⟩ := h s a v hs
  refine ⟨front ++ [c], by simp, fun rest _ => ?_⟩
  rw [List.append_assoc, List.singleton_append, hfront]

/-- A text is not read if it is cut off in front of the character that it ends at. -/
theorem EndsAt.not_ok_of_prefix {c : Char} (h : EndsAt c scan) {front cut v w : List Char} {a a' : α}
    (hs : scan (front ++ c :: v) = .ok (a, v)) (hcut : cut <+: front) : scan cut ≠ .ok (a', w) := by
  intro hcut'
  obtain ⟨shorter, rfl, hshorter⟩ := h cut a' w hcut'
  obtain ⟨gone, rfl⟩ := hcut
  rw [List.append_assoc, List.append_assoc, List.cons_append, hshorter] at hs
  have hlength := congrArg List.length (Prod.mk.inj (Except.ok.inj hs)).2
  simp only [List.length_append, List.length_cons] at hlength
  omega

/-- What shrinks the text takes its first character. -/
theorem LooksAhead.cons (h : LooksAhead scan)
    (hshrinks : ∀ {s a v}, scan s = .ok (a, v) → v.length < s.length) (c : Char) :
    LooksAhead (fun r => scan (c :: r)) := by
  intro r a v hr
  obtain ⟨front, hfront, hrest⟩ := h _ a v hr
  cases front with
  | nil =>
    have := hshrinks hr
    rw [hfront, List.nil_append] at this
    omega
  | cons d front =>
    rw [List.cons_append, List.cons.injEq] at hfront
    obtain ⟨rfl, hfront⟩ := hfront
    exact ⟨front, hfront, hrest⟩

/-- What is made of something read, or refused for it, without a look at the text. -/
theorem LooksAhead.of_iff {β : Type} {R : α → β → Prop} {part : List Char → Outcome β}
    (h : LooksAhead scan)
    (hpart : ∀ s x v, part s = .ok (x, v) ↔ ∃ a, scan s = .ok (a, v) ∧ R a x) : LooksAhead part := by
  intro s x v hs
  obtain ⟨a, ha, hR⟩ := (hpart s x v).mp hs
  obtain ⟨front, rfl, hfront⟩ := h s a v ha
  exact ⟨front, rfl, fun rest hrest => (hpart _ _ _).mpr ⟨a, hfront rest hrest, hR⟩⟩

theorem LooksAhead.ite {p : Prop} [Decidable p] {other : List Char → Outcome α}
    (h : LooksAhead scan) (hother : LooksAhead other) :
    LooksAhead (fun s => if p then scan s else other s) := by
  by_cases hp : p
  · simpa only [if_pos hp] using h
  · simpa only [if_neg hp] using hother

theorem looksAhead_stop (fault : Fault) (ahead : Nat) (place : List Char → List Char) :
    LooksAhead (fun s => (stop fault (place s) ahead : Outcome α)) := by
  intro s a v h
  cases h

theorem head?_append_congr {front s t : List Char} (h : s.head? = t.head?) :
    (front ++ s).head? = (front ++ t).head? := by
  rw [List.head?_append, List.head?_append, h]

theorem head?_append_cons (front : List Char) (c : Char) (s t : List Char) :
    (front ++ c :: s).head? = (front ++ c :: t).head? :=
  head?_append_congr rfl

/-- The space in front of a part is skipped whatever the part goes on with. -/
theorem exists_blanks_of_skipSpace {c : Char} {r s : List Char} (h : skipSpace s = c :: r) :
    ∃ blanks, s = blanks ++ c :: r ∧ ∀ t, skipSpace (blanks ++ c :: t) = c :: t := by
  have hc : isSpace c = false := by
    have := List.head?_dropWhile_not isSpace s
    rwa [← skipSpace, h] at this
  refine ⟨s.takeWhile isSpace, ?_, fun t => ?_⟩
  · rw [← h, skipSpace, List.takeWhile_append_dropWhile]
  · rw [skipSpace_append (List.all_eq_true.mp List.all_takeWhile), skipSpace_of_not_isSpace hc]

/-! ## 2. Words and strings -/

theorem looksAhead_wordFrom (letters : List Char) (value : Value) :
    LooksAhead (wordFrom letters value) := by
  intro s x v h
  obtain ⟨rfl, rfl⟩ := wordFrom_eq_ok_iff.mp h
  exact ⟨letters, rfl, fun rest _ => wordFrom_eq_ok_iff.mpr ⟨rfl, rfl⟩⟩

theorem stopInHex_ne_ok {s v : List Char} {a : α} : stopInHex s ≠ .ok (a, v) := by
  unfold stopInHex stop
  split
  all_goals simp

theorem looksAhead_hexFrom : LooksAhead hexFrom := by
  intro s n v h
  unfold hexFrom at h
  split at h
  · rename_i a b c d r
    split at h
    · rename_i hn
      cases h
      exact ⟨[a, b, c, d], rfl, fun rest _ => by simp [hexFrom, hn]⟩
    · exact absurd h stopInHex_ne_ok
  · exact absurd h stopInHex_ne_ok

theorem looksAhead_trailFrom (lead : Nat) : LooksAhead (trailFrom lead) := by
  intro s c v h
  unfold trailFrom stop at h
  split at h
  · cases h
  · rename_i r
    split at h
    · cases h
    · rename_i n t hn
      split at h
      · rename_i htrailing
        simp only [Except.ok.injEq, Prod.mk.injEq] at h
        obtain ⟨rfl, rfl⟩ := h
        obtain ⟨front, rfl, hfront⟩ := looksAhead_hexFrom _ _ _ hn
        refine ⟨'\\' :: 'u' :: front, rfl, fun rest hrest => ?_⟩
        rw [List.cons_append, List.cons_append, trailFrom, hfront rest hrest]
        exact if_pos htrailing
      · cases h
  · cases h
  · cases h
  · cases h

theorem looksAhead_unicodeFrom : LooksAhead unicodeFrom := by
  intro s c v h
  unfold unicodeFrom stop at h
  split at h
  · cases h
  · rename_i n r hn
    obtain ⟨front, rfl, hfront⟩ := looksAhead_hexFrom _ _ _ hn
    split at h
    · cases h
    · rename_i htrailing
      split at h
      · rename_i hleading
        obtain ⟨more, rfl, hmore⟩ := looksAhead_trailFrom n _ _ _ h
        refine ⟨front ++ more, (List.append_assoc ..).symm, fun rest hrest => ?_⟩
        have hhex := hfront (more ++ rest) (head?_append_congr hrest)
        simp only [List.append_assoc, unicodeFrom, hhex, if_neg htrailing, if_pos hleading,
          hmore rest hrest]
      · rename_i hleading
        cases h
        refine ⟨front, rfl, fun rest hrest => ?_⟩
        simp only [unicodeFrom, hfront rest hrest, if_neg htrailing, if_neg hleading]

theorem looksAhead_escapeFrom : LooksAhead escapeFrom := by
  intro s c v h
  unfold escapeFrom stop at h
  split at h
  · cases h
  · rename_i d r
    split at h
    · rename_i hd
      obtain ⟨front, rfl, hfront⟩ := looksAhead_unicodeFrom _ _ _ h
      refine ⟨d :: front, rfl, fun rest hrest => ?_⟩
      simp only [List.cons_append, escapeFrom, if_pos hd, hfront rest hrest]
    · rename_i hd
      split at h
      · rename_i he
        cases h
        exact ⟨[d], rfl, fun rest _ => by simp [escapeFrom, hd, he]⟩
      · cases h

/-- A string ends at its closing quote. -/
theorem endsAt_stringFrom (done : List Char) : EndsAt '"' (stringFrom done) := by
  intro s text v h
  fun_induction stringFrom done s with
  | case1 => cases h
  | case2 =>
    cases h
    exact ⟨[], rfl, fun rest => by rw [List.nil_append, stringFrom, if_pos rfl]⟩
  | case3 => cases h
  | case4 done r e t hescape _ ih =>
    obtain ⟨front, rfl, hfront⟩ := ih h
    obtain ⟨letters, rfl, hletters⟩ := looksAhead_escapeFrom _ _ _ hescape
    refine ⟨'\\' :: (letters ++ front), by simp, fun rest => ?_⟩
    rw [List.cons_append, List.append_assoc,
      stringFrom_backslash (hletters _ (head?_append_cons front '"' rest v)), hfront]
  | case5 => cases h
  | case6 done c r hquote hbackslash hcontrol ih =>
    obtain ⟨front, rfl, hfront⟩ := ih h
    refine ⟨c :: front, rfl, fun rest => ?_⟩
    rw [List.cons_append, stringFrom, if_neg hquote, if_neg hbackslash, if_neg hcontrol, hfront]

/-! ## 3. Numbers -/

theorem startsWithDigit_congr {s t : List Char} (h : s.head? = t.head?) :
    startsWithDigit s = startsWithDigit t := by
  rw [startsWithDigit, startsWithDigit, h]

theorem startsWithDigit_afterDigits (s : List Char) : startsWithDigit (afterDigits s) = false := by
  have := List.head?_dropWhile_not Char.isDigit s
  rw [startsWithDigit, afterDigits]
  cases hhead : (s.dropWhile Char.isDigit).head? with
  | none => rfl
  | some c =>
    rw [hhead] at this
    exact this

theorem looksAhead_requiredDigits : LooksAhead requiredDigits := by
  intro s digits v h
  unfold requiredDigits stop at h
  split at h
  · rename_i hstarts
    cases h
    have hfront : ∀ c ∈ s.takeWhile Char.isDigit, c.isDigit = true :=
      List.all_eq_true.mp List.all_takeWhile
    refine ⟨s.takeWhile Char.isDigit, List.takeWhile_append_dropWhile.symm, fun rest hrest => ?_⟩
    have hstarts' : startsWithDigit (s.takeWhile Char.isDigit ++ rest) = true := by
      rw [startsWithDigit_congr (head?_append_congr hrest), afterDigits,
        List.takeWhile_append_dropWhile, hstarts]
    have hend : startsWithDigit rest = false :=
      (startsWithDigit_congr hrest).trans (startsWithDigit_afterDigits s)
    obtain ⟨hdigits, hafter⟩ := digits_append hfront hend
    rw [requiredDigits, if_pos hstarts', hdigits, hafter, digitsOf]
  · split at h
    · cases h
    · cases h

theorem looksAhead_fractionFrom : LooksAhead fractionFrom := by
  intro s fraction v h
  by_cases hpoint : s.head? = some '.'
  · obtain ⟨r, rfl⟩ := List.head?_eq_some_iff.mp hpoint
    simp only [fractionFrom] at h
    split at h
    · rename_i digits t hdigits
      cases h
      obtain ⟨front, rfl, hfront⟩ := looksAhead_requiredDigits _ _ _ hdigits
      refine ⟨'.' :: front, rfl, fun rest hrest => ?_⟩
      simp only [List.cons_append, fractionFrom, hfront rest hrest]
    · cases h
  · rw [fractionFrom_of_head?_ne hpoint] at h
    cases h
    exact ⟨[], rfl, fun rest hrest => fractionFrom_of_head?_ne (hrest ▸ hpoint)⟩

/-- A sign is one character or none. -/
theorem exists_sign (s : List Char) : ∃ sign, s = sign ++ (signOf s).2 ∧
    ∀ rest, rest.head? = (signOf s).2.head? → signOf (sign ++ rest) = ((signOf s).1, rest) := by
  have hnone : ∀ {t : List Char}, t.head? ≠ some '+' → t.head? ≠ some '-' → signOf t = (true, t) := by
    intro t hplus hminus
    unfold signOf
    split
    · exact absurd rfl hplus
    · exact absurd rfl hminus
    · rfl
  by_cases hplus : s.head? = some '+'
  · obtain ⟨r, rfl⟩ := List.head?_eq_some_iff.mp hplus
    exact ⟨['+'], rfl, fun _ _ => rfl⟩
  · by_cases hminus : s.head? = some '-'
    · obtain ⟨r, rfl⟩ := List.head?_eq_some_iff.mp hminus
      exact ⟨['-'], rfl, fun _ _ => rfl⟩
    · rw [hnone hplus hminus]
      exact ⟨[], rfl, fun rest hrest => hnone (hrest ▸ hplus) (hrest ▸ hminus)⟩

theorem looksAhead_exponentFrom : LooksAhead exponentFrom := by
  intro s exponent v h
  by_cases hletter : ∀ c ∈ s.head?, ¬ (c = 'e' ∨ c = 'E')
  · rw [exponentFrom_of_head?_ne hletter] at h
    cases h
    exact ⟨[], rfl, fun rest hrest => exponentFrom_of_head?_ne (hrest ▸ hletter)⟩
  · cases s with
    | nil => simp at hletter
    | cons c r =>
      have hc : c = 'e' ∨ c = 'E' := by
        simpa [Decidable.or_iff_not_imp_left] using hletter
      rw [exponentFrom, if_pos hc] at h
      split at h
      · rename_i digits t hdigits
        cases h
        obtain ⟨sign, hsign, hsigned⟩ := exists_sign r
        obtain ⟨front, hfront, hdigits'⟩ := looksAhead_requiredDigits _ _ _ hdigits
        refine ⟨c :: (sign ++ front), ?_, fun rest hrest => ?_⟩
        · rw [List.cons_append, List.append_assoc, ← hfront, ← hsign]
        · have hhead : (front ++ rest).head? = (signOf r).2.head? := by
            rw [hfront]
            exact head?_append_congr hrest
          rw [List.cons_append, List.append_assoc, exponentFrom, if_pos hc, hsigned _ hhead]
          simp only [hdigits' rest hrest]
      · cases h

theorem looksAhead_numeralFrom (negative : Bool) : LooksAhead (numeralFrom negative) := by
  intro s n v h
  unfold numeralFrom stop at h
  split at h
  · cases h
  · rename_i whole afterWhole hwhole
    split at h
    · cases h
    · rename_i hzero
      split at h
      · cases h
      · rename_i fraction afterFraction hfraction
        split at h
        · cases h
        · rename_i exponent rest hexponent
          cases h
          have hlt := length_requiredDigits_lt hwhole
          obtain ⟨front, rfl, hfront⟩ := looksAhead_requiredDigits _ _ _ hwhole
          obtain ⟨point, rfl, hpoint⟩ := looksAhead_fractionFrom _ _ _ hfraction
          obtain ⟨power, rfl, hpower⟩ := looksAhead_exponentFrom _ _ _ hexponent
          refine ⟨front ++ (point ++ power), by simp only [List.append_assoc], fun rest hrest => ?_⟩
          have hpower' : (power ++ rest).head? = (power ++ v).head? := head?_append_congr hrest
          have hpoint' : (point ++ (power ++ rest)).head? = (point ++ (power ++ v)).head? :=
            head?_append_congr hpower'
          -- whether a digit follows a zero in front is seen without what is left
          have hzero' : ¬ ((front ++ (point ++ (power ++ rest))).head? = some '0' ∧
              startsWithDigit (front ++ (point ++ (power ++ rest))).tail = true) := by
            cases front with
            | nil => simp at hlt
            | cons c front =>
              rw [List.cons_append, List.tail_cons, List.head?_cons,
                startsWithDigit_congr (head?_append_congr hpoint')]
              exact hzero
          simp only [List.append_assoc, numeralFrom, hfront _ hpoint', if_neg hzero',
            hpoint _ hpower', hpower _ hrest]

theorem looksAhead_numberFrom (negative : Bool) : LooksAhead (numberFrom negative) := by
  intro s x v h
  unfold numberFrom stop at h
  split at h
  · cases h
  · rename_i n r hn
    split at h
    · rename_i hx
      cases h
      obtain ⟨front, rfl, hfront⟩ := looksAhead_numeralFrom negative _ _ _ hn
      exact ⟨front, rfl, fun rest hrest => by simp only [numberFrom, hfront rest hrest, hx]⟩
    · cases h

/-! ## 4. Series -/

namespace Reader

variable {b : Brackets} {item : Reader α}

/-- An item with the space in front of it. -/
theorem ItemFrom.exists_front (h : LooksAhead item.run) {s u : List Char} {a : α}
    (hs : ItemFrom b item s a u) :
    ∃ front, s = front ++ u ∧ ∀ rest, rest.head? = u.head? → ItemFrom b item (front ++ rest) a rest := by
  obtain ⟨hhead, hrun⟩ := hs
  cases hskip : skipSpace s with
  | nil =>
    rw [hskip] at hrun
    exact absurd hrun item.run_nil_ne_ok
  | cons c r =>
    rw [hskip] at hhead hrun
    obtain ⟨blanks, rfl, hblanks⟩ := exists_blanks_of_skipSpace hskip
    obtain ⟨front, rfl, hfront⟩ := h.cons item.shrinks c _ _ _ hrun
    refine ⟨blanks ++ c :: front, by simp, fun rest hrest => ?_⟩
    rw [List.append_assoc, List.cons_append, ItemFrom, hblanks]
    exact ⟨hhead, hfront rest hrest⟩

/-- What follows an item ends at the closing bracket.  What is left behind a further item is shorter, so
the induction is on the length of the text. -/
theorem endsAt_moreFrom (h : LooksAhead item.run) (hb : b.closing ≠ ',') :
    EndsAt b.closing (moreFrom b item) := by
  intro s
  induction hlength : s.length using Nat.strongRecOn generalizing s with
  | ind n ih =>
    intro l v hs
    rcases (moreFrom_eq_ok_iff hb).mp hs with ⟨hend, rfl⟩ | ⟨r, a, u, l, hcomma, hitem, hmore, rfl⟩
    · obtain ⟨blanks, rfl, hblanks⟩ := exists_blanks_of_skipSpace hend
      exact ⟨blanks, rfl, fun rest => (moreFrom_eq_ok_iff hb).mpr (.inl ⟨hblanks rest, rfl⟩)⟩
    · have hlt : u.length < n := by
        have h₁ := length_skipSpace_le s
        have h₂ := length_lt_of_itemFrom hitem
        rw [hcomma, List.length_cons] at h₁
        omega
      obtain ⟨blanks, rfl, hblanks⟩ := exists_blanks_of_skipSpace hcomma
      obtain ⟨front, rfl, hfront⟩ := hitem.exists_front h
      obtain ⟨more, rfl, hmore'⟩ := ih _ hlt _ rfl _ _ hmore
      refine ⟨blanks ++ ',' :: (front ++ more), by simp, fun rest => ?_⟩
      refine (moreFrom_eq_ok_iff hb).mpr (.inr ⟨front ++ (more ++ b.closing :: rest), a, _, l, ?_,
        hfront _ (head?_append_cons more b.closing rest v), hmore' rest, rfl⟩)
      simp only [List.append_assoc, List.cons_append, hblanks]

theorem endsAt_itemsFrom (h : LooksAhead item.run) (hb : b.closing ≠ ',') :
    EndsAt b.closing (itemsFrom b item) := by
  intro s l v hs
  rcases itemsFrom_eq_ok_iff.mp hs with ⟨hend, rfl⟩ | ⟨a, u, l, hitem, hmore, rfl⟩
  · obtain ⟨blanks, rfl, hblanks⟩ := exists_blanks_of_skipSpace hend
    exact ⟨blanks, rfl, fun rest => itemsFrom_eq_ok_iff.mpr (.inl ⟨hblanks rest, rfl⟩)⟩
  · obtain ⟨front, rfl, hfront⟩ := hitem.exists_front h
    obtain ⟨more, rfl, hmore'⟩ := endsAt_moreFrom h hb _ _ _ hmore
    refine ⟨front ++ more, (List.append_assoc ..).symm, fun rest => ?_⟩
    rw [List.append_assoc]
    exact itemsFrom_eq_ok_iff.mpr
      (.inr ⟨a, _, l, hfront _ (head?_append_cons more b.closing rest v), hmore' rest, rfl⟩)

/-- **A series ends at its closing bracket.** -/
theorem endsAt_series (h : LooksAhead item.run) (hb : b.closing ≠ ',') :
    EndsAt b.closing (series b item).run := by
  intro s l v hs
  obtain ⟨r, rfl, hr⟩ := series_run_eq_ok_iff.mp hs
  obtain ⟨front, rfl, hfront⟩ := endsAt_itemsFrom h hb _ _ _ hr
  exact ⟨b.opening :: front, rfl, fun rest => series_run_eq_ok_iff.mpr ⟨_, rfl, hfront rest⟩⟩

theorem looksAhead_member {value : Reader α} (h : LooksAhead value.run) :
    LooksAhead (member value).run := by
  intro s p v hs
  obtain ⟨r, t, u, rfl, hkey, hcolon, hvalue⟩ := member_run_eq_ok_iff.mp hs
  obtain ⟨key, rfl, hkey'⟩ := endsAt_stringFrom [] _ _ _ hkey
  obtain ⟨blanks, rfl, hblanks⟩ := exists_blanks_of_skipSpace hcolon
  obtain ⟨front, rfl, hfront⟩ := h _ _ _ hvalue
  refine ⟨'"' :: (key ++ '"' :: (blanks ++ ':' :: front)), by simp, fun rest hrest => ?_⟩
  exact member_run_eq_ok_iff.mpr ⟨key ++ '"' :: (blanks ++ ':' :: (front ++ rest)), _, _, by simp,
    hkey' _, hblanks _, hfront rest hrest⟩

/-! ## 5. Values -/

theorem looksAhead_scalarFrom (c : Char) : LooksAhead (scalarFrom c) := by
  refine .ite ?_ <| .ite (looksAhead_wordFrom _ _) <| .ite (looksAhead_wordFrom _ _) <|
    .ite (looksAhead_wordFrom _ _) <| .ite (looksAhead_numberFrom true) <|
    .ite ((looksAhead_numberFrom false).cons length_numberFrom_lt c) <|
    looksAhead_stop .expectedValue 1 (c :: ·)
  refine (endsAt_stringFrom []).looksAhead.of_iff (R := fun text x => Value.string text = x) ?_
  intro r x v
  cases stringFrom [] r with
  | error e => simp
  | ok p => grind

/-- A value is a scalar, or what the readers of lists and objects read, with the space in front of it. -/
theorem looksAhead_valueBy {list object : Reader Value} (hlist : LooksAhead list.run)
    (hobject : LooksAhead object.run) : LooksAhead (valueBy list object).run := by
  have hpart : ∀ c, LooksAhead (fun r =>
      if c = Brackets.list.opening then list.run (c :: r)
      else if c = Brackets.object.opening then object.run (c :: r)
      else scalarFrom c r) := fun c =>
    .ite (hlist.cons list.shrinks c) <|
    .ite (hobject.cons object.shrinks c) <|
    looksAhead_scalarFrom c
  intro s x v h
  cases hskip : skipSpace s with
  | nil =>
    simp only [valueBy, hskip] at h
    cases h
  | cons c r =>
    simp only [valueBy, hskip] at h
    obtain ⟨blanks, rfl, hblanks⟩ := exists_blanks_of_skipSpace hskip
    obtain ⟨front, rfl, hfront⟩ := hpart c _ _ _ h
    refine ⟨blanks ++ c :: front, by simp, fun rest hrest => ?_⟩
    simp only [valueBy, List.append_assoc, List.cons_append, hblanks]
    exact hfront rest hrest

theorem looksAhead_refuse (fault : Fault) : LooksAhead (refuse fault : Reader α).run :=
  looksAhead_stop fault 1 id

/-- **A value looks ahead by one character, however deep it nests.** -/
theorem looksAhead_value (depth : Nat) : LooksAhead (value depth).run := by
  induction depth with
  | zero => exact looksAhead_valueBy (looksAhead_refuse _) (looksAhead_refuse _)
  | succ depth ih =>
    have hlist := endsAt_series (b := .list) ih (by decide)
    have hobject := endsAt_series (b := .object) (looksAhead_member ih) (by decide)
    exact looksAhead_valueBy (hlist.looksAhead.of_iff fun _ _ _ => map_run_eq_ok_iff)
      (hobject.looksAhead.of_iff fun _ _ _ => map_run_eq_ok_iff)

end Reader

end KeywordGrammar.Json
