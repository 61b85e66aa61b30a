/-
# Numbers and bare words

The two rules at the end of the list look alike: one group of characters of a set, as many as there are,
between two word boundaries.  All characters of either set are word characters.  Inside of a word there
is no boundary, so giving characters back is of no use: a match begins where a word does, and it is the
whole word or there is none (`matchAt?_wordOf_iff`).

So the rule for bare words finds the words of every text, and the rule for numbers those of them that
are made of decimal digits (`last_rules_find_words`).  A word with a digit in it that also has another
character is no number, wherever in it a search begins.
-/
import KeywordGrammar.Proofs.GreedyRuns
import KeywordGrammar.Proofs.SetSizes
import KeywordGrammar.Proofs.WordClasses

namespace KeywordGrammar

open Unicode

/-! ## 1. Digits are word characters -/

theorem digitSpans_inWords : digitSpans.all (fun s => isWordStretch s.1 s.2) = true := by
  decide +kernel

theorem Unicode.isWord_of_isDecimalDigit {c : Char} (h : isDecimalDigit c = true) :
    isWord c = true := by
  obtain ⟨s, hs, hlo, hhi⟩ := exists_span_of_inSpans h
  rw [isWord_eq]
  exact inSpans_of_isWordStretch (List.all_eq_true.mp digitSpans_inWords s hs) hlo hhi

/-! ## 2. Groups between word boundaries -/

namespace Pattern

/-- The pattern of a group of one or more characters of a set, between two word boundaries. -/
def wordOf (set : CharSet) : Pattern :=
  seq (anchor .wordBoundary) (seq (group 1 (run set .atLeastOne)) (anchor .wordBoundary))

theorem matchAt?_wordOf (set : CharSet) (p : Place) : (wordOf set).matchAt? p =
    if p.isBoundary then
      (p.reach set .atLeastOne).findSome? (fun q =>
        if q.isBoundary then some ⟨p, q, [⟨1, p, q⟩]⟩ else none)
    else none :=
  rfl

/-- **A match is a whole word of characters of the set.** -/
theorem matchAt?_wordOf_iff {set : CharSet} (hwords : ∀ c, set.contains c = true → isWord c = true)
    {p : Place} {m : Match} : (wordOf set).matchAt? p = some m ↔
      ∃ letters q, p.IsWordRun letters q ∧ (∀ c ∈ letters, set.contains c = true) ∧
        m = ⟨p, q, [⟨1, p, q⟩]⟩ := by
  rw [matchAt?_wordOf]
  constructor
  · intro hm
    split at hm
    · rename_i hp
      obtain ⟨q, hq, hm⟩ := List.exists_of_findSome?_eq_some hm
      obtain ⟨s, hs, hpos, hset⟩ := Place.mem_reach_iff.mp hq
      split at hm
      · rename_i hboundary
        cases hm
        refine ⟨s, q, Place.isWordRun_iff.mpr ?_, hset, rfl⟩
        exact ⟨hs, List.ne_nil_of_length_pos hpos, fun c hc => hwords c (hset c hc), hp, hboundary⟩
      · cases hm
    · cases hm
  · rintro ⟨letters, q, hrun, hset, rfl⟩
    obtain ⟨-, hne, -, hp, hq⟩ := Place.isWordRun_iff.mp hrun
    -- no character of the set stands behind a word
    have hends : q.EndsRun set := by
      intro c hc
      have hback := hrun.back
      rw [Option.mem_def.mp hc, Option.any_some] at hback
      by_contra hin
      rw [hwords c (by simpa using hin)] at hback
      cases hback
    rw [if_pos hp]
    exact Place.findSome?_reach_of_farthest hrun.leads (List.length_pos_iff.mpr hne) hset (.inl hends)
      (if_pos hq)

/-- Whether some matches are the words of a text that have some property. -/
structure FindsWords (holds : List Char → Prop) (text : String) (found : List Match) : Prop where
  /-- From one place to another there is a match iff there is such a word. -/
  words : ∀ start stop, (∃ m ∈ found, m.start = start ∧ m.stop = stop) ↔
    start.text = text.toList ∧ ∃ letters, start.IsWordRun letters stop ∧ holds letters
  /-- The matches come in the order of the text, and each ends in front of the next. -/
  inOrder : found.Pairwise (fun m n => m.stop.offset ≤ n.start.offset)
  /-- The group of a match is the whole match. -/
  group : ∀ m ∈ found, m.span? 1 = m.span? 0

/-- Only what the property says of words counts. -/
theorem FindsWords.congr {holds holds' : List Char → Prop} {text : String} {found : List Match}
    (h : FindsWords holds text found)
    (hsame : ∀ (p : Place) letters q, p.IsWordRun letters q → (holds letters ↔ holds' letters)) :
    FindsWords holds' text found := by
  refine ⟨fun start stop => ?_, h.inOrder, h.group⟩
  rw [h.words start stop]
  constructor
  · rintro ⟨htext, letters, hrun, hholds⟩
    exact ⟨htext, letters, hrun, (hsame _ _ _ hrun).mp hholds⟩
  · rintro ⟨htext, letters, hrun, hholds⟩
    exact ⟨htext, letters, hrun, (hsame _ _ _ hrun).mpr hholds⟩

/-- **A search finds the words that are made of characters of the set.** -/
theorem search_wordOf_findsWords {set : CharSet}
    (hwords : ∀ c, set.contains c = true → isWord c = true) (text : String) :
    FindsWords (fun letters => ∀ c ∈ letters, set.contains c = true) text
      ((wordOf set).search text) := by
  refine ⟨fun start stop => ?_, pairwise_search _ text, fun m hm => ?_⟩
  · refine mem_search_iff_word (fun m hm => ?_) (fun start letters stop hrun hset => ?_)
    · obtain ⟨letters, q, hrun, hset, heq⟩ := (matchAt?_wordOf_iff hwords).mp hm
      have hstop : m.stop = q := by rw [heq]
      exact ⟨letters, hstop ▸ hrun, hset⟩
    · exact ⟨_, (matchAt?_wordOf_iff hwords).mpr ⟨letters, stop, hrun, hset, rfl⟩⟩
  · obtain ⟨-, -, hmatch⟩ := mem_search hm
    obtain ⟨letters, q, -, -, heq⟩ := (matchAt?_wordOf_iff hwords).mp hmatch
    rw [heq]
    rfl

end Pattern

/-! ## 3. The two rules -/

/-- A rule that is written as a group of a set between word boundaries can be used, if the set does not
take too much room. -/
theorem Rule.compile_of_wordOf {r : Rule} {set : CharSet} {s : Spans}
    (hread : Pattern.read r.pattern = .ok ⟨Pattern.wordOf set, Pattern.Shape.wordOf s⟩)
    (hroom : Pattern.setRoom s + 500 ≤ compiledSizeLimit) : r.compile = .ok (Pattern.wordOf set) := by
  rw [compile, hread]
  exact if_pos (Pattern.Shape.fits_wordOf hroom)

theorem compile_numericRule : numericRule.compile = .ok (Pattern.wordOf .digit) := by
  have hread : Pattern.read numericRule.pattern =
      .ok ⟨Pattern.wordOf .digit, Pattern.Shape.wordOf digitSpans⟩ := rfl
  exact Rule.compile_of_wordOf hread (by decide +kernel)

theorem compile_fallbackRule : fallbackRule.compile = .ok (Pattern.wordOf .word) := by
  have hread : Pattern.read fallbackRule.pattern =
      .ok ⟨Pattern.wordOf .word, Pattern.Shape.wordOf wordSpans⟩ := rfl
  exact Rule.compile_of_wordOf hread (by decide +kernel)

theorem fallbackRule_reports : fallbackRule.Reports (Pattern.FindsWords (fun _ => True)) := by
  refine ⟨_, compile_fallbackRule, fun text => ?_⟩
  have hfound := Pattern.search_wordOf_findsWords (fun c (h : CharSet.word.contains c = true) => h) text
  exact hfound.congr (fun p letters q hrun => iff_true_intro hrun.word)

theorem numericRule_reports : numericRule.Reports
    (Pattern.FindsWords (fun letters => ∀ c ∈ letters, isDecimalDigit c = true)) :=
  ⟨_, compile_numericRule, Pattern.search_wordOf_findsWords
    (fun c (h : CharSet.digit.contains c = true) => isWord_of_isDecimalDigit h)⟩

/-- A rule that finds the words with a property finds each of them. -/
theorem Rule.finds_of_reports {r : Rule} {holds : List Char → Prop}
    (h : r.Reports (Pattern.FindsWords holds)) {text : String} {p q : Place} {letters : List Char}
    (htext : p.text = text.toList)
    (hrun : p.IsWordRun letters q) (hholds : holds letters) : r.Finds text p q := by
  obtain ⟨pattern, hcompile, hfound⟩ := h
  exact (Rule.finds_iff hcompile).mpr (((hfound text).words p q).mpr ⟨htext, letters, hrun, hholds⟩)

/-- **What the last two rules find.**  In every text the last rule finds the words, and the one before it
those that are made of decimal digits, in their order and each as a group.  Every rule list that is put
together ends with the two, so its last rule finds every word, whether or not a category lists it. -/
theorem last_rules_find_words :
    fallbackRule.Reports (Pattern.FindsWords (fun _ => True)) ∧
    numericRule.Reports (Pattern.FindsWords (fun letters => ∀ c ∈ letters, isDecimalDigit c = true)) ∧
    ∀ categories rules, assemble categories = .ok rules →
      (∃ front, rules = front ++ [numericRule, fallbackRule]) ∧
      ∃ last, rules.getLast? = some last ∧ ∀ text p letters q, p.text = text.toList →
        p.IsWordRun letters q → last.Finds text p q := by
  refine ⟨fallbackRule_reports, numericRule_reports, fun categories rules hrules => ?_⟩
  rw [assemble_eq_ruleList] at hrules
  split at hrules
  · cases hrules
  · cases hrules
    refine ⟨⟨_, rfl⟩, fallbackRule, ?_, fun text p letters q htext hrun => ?_⟩
    · rw [ruleList, List.getLast?_append]
      rfl
    · exact Rule.finds_of_reports fallbackRule_reports htext hrun trivial

/-- A text of two words that begin with a digit, of which only the second one is a number. -/
theorem last_rules_find_words_unlisted : ∃ rules last, assemble [] = .ok rules ∧
    rules.getLast? = some last ∧
    last.Finds "4b ٤2" ⟨[], ['4', 'b', ' ', '٤', '2'], 0, rfl⟩ ⟨['b', '4'], [' ', '٤', '2'], 2, rfl⟩ ∧
    ∃ p, numericRule.compile = .ok p ∧
      (∀ m ∈ p.search "4b ٤2", m.span? 1 = m.span? 0) ∧
      (p.search "4b ٤2").map (fun m => m.span? 0) = [some (3, 6)] := by
  have hassemble : assemble [] = .ok (ruleList []) := assemble_eq_ruleList []
  have hrun : (⟨[], ['4', 'b', ' ', '٤', '2'], 0, rfl⟩ : Place).IsWordRun ['4', 'b']
      ⟨['b', '4'], [' ', '٤', '2'], 2, rfl⟩ :=
    ⟨⟨rfl, rfl⟩, by decide, List.all_eq_true.mp (by decide +kernel), rfl, by decide +kernel⟩
  obtain ⟨-, ⟨p, hcompile, hfound⟩, hlists⟩ := last_rules_find_words
  obtain ⟨-, last, hlast, hfinds⟩ := hlists [] _ hassemble
  refine ⟨_, last, hassemble, hlast, hfinds _ _ _ _ (by decide) hrun, p, hcompile, (hfound _).group, ?_⟩
  rw [compile_numericRule] at hcompile
  cases hcompile
  decide +kernel

end KeywordGrammar
