/-
# What the rules of categories make of a text

Two results meet here.  Resolving gives a term to the first category that lists it
(`mem_terms_resolve_iff`), and the rule of a category finds the words whose folding is one of its
terms (`Pattern.mem_search_wholeWord_iff`).  So where all candidates are words in folded form, the
rules of the categories sort the words of a text: a word goes to the rule of the first category that
lists its folding (`ResolvedWords.finds_rule_iff`).

`Classifies` adds what follows for all rules together: no word gets to two of them, none is found
inside of a longer word, and only a word that no category lists is left over.
-/
import KeywordGrammar.Proofs.Ownership
import KeywordGrammar.Proofs.RuleLists
import KeywordGrammar.Proofs.WholeWords

namespace KeywordGrammar

open Unicode

/-! ## 1. What a rule finds -/

/-- Whether a search of a text with a rule reports a match from one place to another. -/
def Rule.Finds (r : Rule) (text : String) (start stop : Place) : Prop :=
  ∃ p, r.compile = .ok p ∧ ∃ m ∈ p.search text, m.start = start ∧ m.stop = stop

theorem Rule.finds_iff {r : Rule} {pattern : Pattern} (h : r.compile = .ok pattern) {text : String}
    {start stop : Place} : r.Finds text start stop ↔
      ∃ m ∈ pattern.search text, m.start = start ∧ m.stop = stop := by
  simp only [Finds, h, Except.ok.injEq, exists_eq_left']

/-- Whether `name` is the first name of the order that lists the folding of some letters. -/
def Precedence.IsClass (order : Precedence) (cands : Candidates) (letters : List Char)
    (name : String) : Prop :=
  IsFirst order.names (fun n => String.ofList (letters.map fold) ∈ cands.terms n) name

/-- Categories that were resolved from words in folded form, and whose rules can all be used. -/
structure ResolvedWords (cands : Candidates) (order : Precedence) (categories : List Category) :
    Prop where
  resolved : resolve cands order = .ok categories
  fits : Category.firstTooLarge? categories = none
  words : ∀ n, ∀ t ∈ cands.terms n, IsFoldedWord t

namespace ResolvedWords

variable {cands : Candidates} {order : Precedence} {categories : List Category} {c c' : Category}
  {text : String} {start stop p q : Place} {letters : List Char}

/-- **The rule of a category finds the words whose class it is.** -/
theorem finds_rule_iff (h : ResolvedWords cands order categories)
    (hc : c ∈ Category.owning categories) :
    c.rule.Finds text start stop ↔ start.text = text.toList ∧
      ∃ letters, start.IsWordRun letters stop ∧ order.IsClass cands letters c.name := by
  have hmem : c ∈ categories := List.mem_of_mem_filter hc
  have hne := Category.isEmpty_eq_false_iff.mp (Category.isEmpty_of_mem_owning hc)
  have hwords : ∀ t ∈ c.terms.toList, IsFoldedWord t :=
    fun t ht => h.words c.name t (listed_of_mem_terms h.resolved hmem ht)
  rw [Rule.finds_iff (compile_rule_of_mem_owning h.fits hc),
    Pattern.mem_search_wholeWord_iff hne hwords]
  simp only [TermSet.mem_toList, mem_terms_resolve_iff h.resolved hmem, Precedence.IsClass]

/-- The rule of a category finds a certain word iff that word is of its class. -/
theorem finds_word_iff (h : ResolvedWords cands order categories)
    (hc : c ∈ Category.owning categories) (htext : p.text = text.toList)
    (hrun : p.IsWordRun letters q) :
    c.rule.Finds text p q ↔ order.IsClass cands letters c.name := by
  rw [h.finds_rule_iff hc]
  constructor
  · rintro ⟨-, s, hs, hclass⟩
    rw [← hs.leads.letters_eq hrun.leads]
    exact hclass
  · intro hclass
    exact ⟨htext, letters, hrun, hclass⟩

/-- The names that own a term are those that are the first to list one. -/
theorem mem_owners_iff (h : ResolvedWords cands order categories) {name : String} :
    name ∈ (Category.owning categories).map Category.name ↔
      ∃ t, IsFirst order.names (fun n => t ∈ cands.terms n) name := by
  constructor
  · intro hname
    obtain ⟨c, hc, rfl⟩ := List.mem_map.mp hname
    have hne := Category.isEmpty_eq_false_iff.mp (Category.isEmpty_of_mem_owning hc)
    obtain ⟨t, ht⟩ := List.exists_mem_of_ne_nil _ hne
    exact ⟨t, (mem_terms_resolve_iff h.resolved (List.mem_of_mem_filter hc) t).mp ht⟩
  · rintro ⟨t, hfirst⟩
    have hmem := hfirst.mem
    rw [← names_of_resolve h.resolved] at hmem
    obtain ⟨c, hc, rfl⟩ := List.mem_map.mp hmem
    have ht := (mem_terms_resolve_iff h.resolved hc t).mpr hfirst
    exact List.mem_map_of_mem (Category.mem_owning_of_mem_terms hc ht)

/-- A word is of one class only. -/
theorem eq_of_finds (h : ResolvedWords cands order categories)
    (hc : c ∈ Category.owning categories) (hc' : c' ∈ Category.owning categories)
    (hfound : c.rule.Finds text start stop) (hfound' : c'.rule.Finds text start stop) :
    c = c' := by
  obtain ⟨htext, letters, hrun, hclass⟩ := (h.finds_rule_iff hc).mp hfound
  have hclass' := (h.finds_word_iff hc' htext hrun).mp hfound'
  have hmem := List.mem_of_mem_filter hc
  have hmem' := List.mem_of_mem_filter hc'
  have ht := (mem_terms_resolve_iff h.resolved hmem _).mpr hclass
  have ht' := (mem_terms_resolve_iff h.resolved hmem' _).mpr hclass'
  exact eq_of_mem_terms h.resolved hmem' hmem ht' ht

/-- What is found and overlaps a word is that word. -/
theorem eq_word_of_finds (h : ResolvedWords cands order categories)
    (hc : c ∈ Category.owning categories) (hfound : c.rule.Finds text start stop)
    (htext : p.text = text.toList) (hrun : p.IsWordRun letters q)
    (hpq : p.offset < stop.offset) (hqp : start.offset < q.offset) : start = p ∧ stop = q := by
  obtain ⟨hstart, s, hs, -⟩ := (h.finds_rule_iff hc).mp hfound
  obtain ⟨hp, -, hq⟩ := hrun.eq_of_overlap hs (htext.trans hstart.symm) hpq hqp
  exact ⟨hp, hq⟩

/-- A word is left over iff its folding is no candidate. -/
theorem not_finds_iff (h : ResolvedWords cands order categories) (htext : p.text = text.toList)
    (hrun : p.IsWordRun letters q) :
    (∀ c ∈ Category.owning categories, ¬ c.rule.Finds text p q) ↔
      ∀ n, String.ofList (letters.map fold) ∉ cands.terms n := by
  constructor
  · intro hnone n hn
    obtain ⟨c, hc, hfirst⟩ := exists_owner h.resolved hn
    have ht := (mem_terms_resolve_iff h.resolved hc _).mpr hfirst
    have hmem := Category.mem_owning_of_mem_terms hc ht
    exact hnone c hmem ((h.finds_word_iff hmem htext hrun).mpr hfirst)
  · intro hnone c hc hfound
    obtain ⟨-, -, -, hlists, -⟩ := (h.finds_word_iff hc htext hrun).mp hfound
    exact hnone _ hlists

end ResolvedWords

/-! ## 2. All rules together -/

/-- Some rules sort the words of every text by the first category that lists their folding. -/
structure Classifies (cands : Candidates) (order : Precedence) (rules : List Rule) : Prop where
  /-- There is one rule for each category that owns a term, in the order's sequence. -/
  names : ∃ owners : List String, rules.map Rule.name = owners.map some ∧ owners.Sublist order.names ∧
    ∀ c, c ∈ owners ↔ ∃ t, IsFirst order.names (fun n => t ∈ cands.terms n) c
  /-- What a rule finds is reported in the order of the text. -/
  inOrder : ∀ r ∈ rules, ∃ p, r.compile = .ok p ∧ ∀ text,
    (p.search text).Pairwise (fun m n => m.stop.offset ≤ n.start.offset)
  /-- The rule of a category finds the words whose class it is, and nothing else. -/
  finds : ∀ r ∈ rules, ∀ c, r.name = some c → ∀ text start stop,
    r.Finds text start stop ↔ start.text = text.toList ∧
      ∃ letters, start.IsWordRun letters stop ∧ order.IsClass cands letters c
  /-- No two rules find one word. -/
  once : ∀ r ∈ rules, ∀ r' ∈ rules, ∀ text start stop,
    r.Finds text start stop → r'.Finds text start stop → r = r'
  /-- No rule finds anything inside of a longer word, or across its ends. -/
  whole : ∀ r ∈ rules, ∀ text start stop, r.Finds text start stop →
    ∀ p letters q, p.text = text.toList → p.IsWordRun letters q →
      p.offset < stop.offset → start.offset < q.offset → start = p ∧ stop = q
  /-- A word that no rule finds is one whose folding no category lists. -/
  leftOver : ∀ text p letters q, p.text = text.toList → p.IsWordRun letters q →
    ((∀ r ∈ rules, ¬ r.Finds text p q) ↔ ∀ n, String.ofList (letters.map fold) ∉ cands.terms n)

theorem names_map_rule (categories : List Category) :
    (categories.map Category.rule).map Rule.name = (categories.map Category.name).map some := by
  rw [List.map_map, List.map_map]
  rfl

/-- The rules of resolved categories sort the words. -/
theorem ResolvedWords.classifies {cands : Candidates} {order : Precedence}
    {categories : List Category} (h : ResolvedWords cands order categories) :
    Classifies cands order ((Category.owning categories).map Category.rule) := by
  refine ⟨⟨(Category.owning categories).map Category.name, names_map_rule _, ?_, ?_⟩,
    ?_, ?_, ?_, ?_, ?_⟩
  · rw [← names_of_resolve h.resolved]
    exact List.filter_sublist.map _
  · exact fun name => h.mem_owners_iff
  · intro r hr
    obtain ⟨c, hc, rfl⟩ := List.mem_map.mp hr
    exact ⟨_, compile_rule_of_mem_owning h.fits hc, Pattern.pairwise_search _⟩
  · intro r hr name hname text start stop
    obtain ⟨c, hc, rfl⟩ := List.mem_map.mp hr
    cases hname
    exact h.finds_rule_iff hc
  · intro r hr r' hr' text start stop hfound hfound'
    obtain ⟨c, hc, rfl⟩ := List.mem_map.mp hr
    obtain ⟨c', hc', rfl⟩ := List.mem_map.mp hr'
    rw [h.eq_of_finds hc hc' hfound hfound']
  · intro r hr text start stop hfound p letters q htext hrun hpq hqp
    obtain ⟨c, hc, rfl⟩ := List.mem_map.mp hr
    exact h.eq_word_of_finds hc hfound htext hrun hpq hqp
  · intro text p letters q htext hrun
    rw [← h.not_finds_iff htext hrun]
    exact List.forall_mem_map

/-- **The rules that are built sort the words of every text.**  For candidates that are folded words
and an order that ranks them, the only obstacle is a rule that is too large; without one, the rules
between the structural rules and the last two send each word to the first category that lists its
folding. -/
theorem buildRules_classifies {cands : Candidates} {order : Precedence}
    (hterms : ∀ n, ∀ t ∈ cands.terms n, IsFoldedWord t) (hnodup : order.names.Nodup)
    (hranked : ∀ n ∈ cands.names, n ∈ order.names) :
    (∀ e, (buildRules cands order).outcome = .error e →
      ∃ categories, resolve cands order = .ok categories ∧
        ∃ c ∈ categories, c.fits = false ∧ e = .pattern ⟨c.name, .tooLarge⟩) ∧
    ∀ categories rules, (buildRules cands order).outcome = .ok (categories, rules) →
      ∃ dynamic, rules = [baseRule, commentRule, bracketRule, stringRule] ++ dynamic ++
        [numericRule, fallbackRule] ∧ Classifies cands order dynamic := by
  constructor
  · intro e he
    have hresolve := resolve_eq_ok_iff.mpr ⟨⟨hnodup, hranked⟩, rfl⟩
    refine ⟨_, hresolve, ?_⟩
    rw [outcome_buildRules, hresolve] at he
    simp only at he
    split at he
    · rename_i c hlarge
      have hmem := List.mem_of_mem_filter (List.mem_of_find?_eq_some hlarge)
      have hfits := List.find?_some hlarge
      exact ⟨c, hmem, by simpa using hfits, (Except.error.inj he).symm⟩
    · cases he
  · intro categories rules hrules
    obtain ⟨hresolve, hfits, rfl⟩ := outcome_buildRules_eq_ok_iff.mp hrules
    exact ⟨_, rfl, ResolvedWords.classifies ⟨hresolve, hfits, hterms⟩⟩

/-- Terms of which one begins like another, and one that is listed twice. -/
def prefixed : Candidates where
  entries := [("code", ⟨["10", "7_1"], by decide⟩), ("level", ⟨["10", "1000"], by decide⟩)]
  increasing := by decide

theorem isFoldedWord_of_mem_prefixed : ∀ n, ∀ t ∈ prefixed.terms n, IsFoldedWord t := by
  have hentries : ∀ e ∈ prefixed.entries, ∀ t ∈ e.2.toList, IsFoldedWord t := by decide +kernel
  intro n t ht
  obtain ⟨s, hs, hts⟩ := Candidates.mem_terms_iff.mp ht
  exact hentries _ hs t hts

/-- The category ranked first keeps what both list, and neither rule is too large. -/
theorem firstTooLarge?_prefixed :
    Category.firstTooLarge? (keepInOrder prefixed ∅ ["level", "code"]) = none := by
  have hkept : (keepInOrder prefixed ∅ ["level", "code"]).map (fun c => c.terms.toList) =
      [["10", "1000"], ["7_1"]] := by
    have hcode : prefixed.terms "code" = ⟨["10", "7_1"], by decide⟩ := rfl
    have hlevel : prefixed.terms "level" = ⟨["10", "1000"], by decide⟩ := rfl
    simp [keepInOrder, Category.keep, hcode, hlevel]
  exact Category.firstTooLarge?_eq_none_of_map hkept (by decide +kernel)

/-- Rules are built for these candidates, and they sort the words. -/
theorem buildRules_classifies_prefixed : ∃ categories dynamic,
    (buildRules prefixed ⟨["level", "code"]⟩).outcome = .ok (categories,
      [baseRule, commentRule, bracketRule, stringRule] ++ dynamic ++ [numericRule, fallbackRule]) ∧
    Classifies prefixed ⟨["level", "code"]⟩ dynamic := by
  have hranked : ∀ n ∈ prefixed.names, n ∈ ["level", "code"] := by decide
  have hresolve : resolve prefixed ⟨["level", "code"]⟩ =
      .ok (keepInOrder prefixed ∅ ["level", "code"]) :=
    resolve_eq_ok_iff.mpr ⟨⟨by decide, hranked⟩, rfl⟩
  have hok := outcome_buildRules_eq_ok_iff.mpr ⟨hresolve, firstTooLarge?_prefixed, rfl⟩
  obtain ⟨dynamic, hrules, hclassifies⟩ :=
    (buildRules_classifies isFoldedWord_of_mem_prefixed (by decide) hranked).2 _ _ hok
  exact ⟨_, dynamic, by rw [hok, hrules], hclassifies⟩

end KeywordGrammar
