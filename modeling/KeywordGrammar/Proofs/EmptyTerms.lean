/-
# Rules with an empty term

The empty string is a term like any other: an empty extra term, an empty key or value, or one that is
nothing but the mark, all come down to it, and some category owns it.  It is the smallest term, so it
is the first branch of that category's rule.  A branch without text fits wherever a word boundary is,
and the rule never gets to another branch: it finds the word boundaries of a text, with empty matches,
and none of the other terms that its category owns.

This is the only way in which a rule of a category can find an empty match.  So all of them make
progress, in every text, iff nobody spells an empty term (`buildRules_progress`).
-/
import KeywordGrammar.Proofs.Spellings
import KeywordGrammar.Proofs.Stability
import KeywordGrammar.Proofs.TermMatches

namespace KeywordGrammar

open Unicode

/-! ## 1. Where the empty term comes from -/

theorem Unicode.lowerAt_ne_nil (before after : List Char) (c : Char) : lowerAt before c after ≠ [] := by
  unfold lowerAt lowerChar
  split
  · exact List.cons_ne_nil _ _
  · split
    · exact List.cons_ne_nil _ _
    · exact List.cons_ne_nil _ _

/-- No character is lost in lowercase. -/
theorem Unicode.lower_eq_empty_iff {a : String} : lower a = "" ↔ a = "" := by
  constructor
  · intro h
    rw [lower, ← String.toList_eq_nil_iff, String.toList_ofList] at h
    cases hletters : a.toList with
    | nil => exact String.toList_eq_nil_iff.mp hletters
    | cons c rest =>
      rw [hletters, lowerFrom_cons, List.append_eq_nil_iff] at h
      exact absurd h.1 (lowerAt_ne_nil _ _ _)
  · rintro rfl
    rfl

/-- The empty term is the smallest. -/
theorem TermSet.head?_of_empty_mem {s : TermSet} (h : "" ∈ s) : s.toList.head? = some "" := by
  obtain ⟨terms, hinc⟩ := s
  cases terms with
  | nil => cases h
  | cons t rest =>
    rcases List.mem_cons.mp h with ht | hrest
    · exact congrArg some ht.symm
    · have hlt := (List.pairwise_cons.mp hinc).1 _ hrest
      rw [String.lt_iff] at hlt
      exact absurd hlt (List.not_lt_nil _)

/-! ## 2. What the empty branch finds -/

namespace Pattern

/-- With the empty term in front, the match of a boundary is empty. -/
theorem matchAt?_of_empty_first {terms : List String} (h : terms.head? = some "") (p : Place) :
    (wholeWord terms).matchAt? p =
      if p.isBoundary then some ⟨p, p, [⟨1, p, p⟩]⟩ else none := by
  obtain ⟨rest, rfl⟩ : ∃ rest, terms = "" :: rest := List.head?_eq_some_iff.mp h
  rw [matchAt?_wholeWord (List.cons_ne_nil _ _)]
  split
  · rename_i hp
    have hend : p.endOf? "".toList = some p := Place.endOf?_iff_bears.mpr
      ⟨[], Place.Leads.refl p, rfl, hp⟩
    rw [List.findSome?_cons, hend]
    rfl
  · rfl

/-- If all matches are empty, then a search reports the match of each place. -/
theorem matchesAlong_of_empty {p : Pattern}
    (h : ∀ place m, p.matchAt? place = some m → m.stop = place) (places : List Place) :
    p.matchesAlong none places = places.filterMap p.matchAt? := by
  induction places with
  | nil => rfl
  | cons here later ih =>
    rw [matchesAlong, List.filterMap_cons]
    cases hat : p.matchAt? here with
    | none => exact ih
    | some m =>
      have hstop := h here m hat
      simp [hstop, ih]

/-- **With the empty term in front, a search reports the boundaries of its text.** -/
theorem search_of_empty_first {terms : List String} (h : terms.head? = some "") (text : String) :
    (wholeWord terms).search text = ((Place.start text).onwards.filter Place.isBoundary).map
      (fun q => ⟨q, q, [⟨1, q, q⟩]⟩) := by
  have hmatch := matchAt?_of_empty_first h
  have hempty : ∀ place m, (wholeWord terms).matchAt? place = some m → m.stop = place := by
    intro place m hm
    rw [hmatch, Option.ite_none_right_eq_some] at hm
    obtain ⟨-, heq⟩ := hm
    cases heq
    rfl
  rw [search_eq, allMatches, matchesAlong_of_empty hempty, funext hmatch]
  induction (Place.start text).onwards with
  | nil => rfl
  | cons p rest ih =>
    by_cases hp : p.isBoundary = true
    · simp [hp, ih]
    · simp [hp, ih]

end Pattern

/-! ## 3. Progress -/

/-- Whether each match of a rule takes some text, in every text. -/
def Rule.Progresses (r : Rule) : Prop :=
  ∃ p, r.compile = .ok p ∧ ∀ text, ∀ m ∈ p.search text, m.start.offset < m.stop.offset

/-- Whether a rule finds the word boundaries of every text, with empty matches, and nothing else. -/
def Rule.FindsBoundaries (r : Rule) : Prop :=
  ∃ p, r.compile = .ok p ∧ ∀ text, (p.search text).map (fun m => (m.start, m.stop)) =
    ((Place.start text).onwards.filter Place.isBoundary).map (fun q => (q, q))

/-- A rule that finds boundaries makes no progress, since a letter has one in front. -/
theorem Rule.FindsBoundaries.not_progresses {r : Rule} (h : r.FindsBoundaries) :
    ¬ r.Progresses := by
  rintro ⟨p, hp, htakes⟩
  obtain ⟨p', hp', hfinds⟩ := h
  rw [hp] at hp'
  cases hp'
  have hboundary : Place.start "a" ∈ (Place.start "a").onwards.filter Place.isBoundary := by
    decide +kernel
  have hpair : (Place.start "a", Place.start "a") ∈
      (p.search "a").map (fun m => (m.start, m.stop)) := by
    rw [hfinds]
    exact List.mem_map_of_mem hboundary
  obtain ⟨m, hm, heq⟩ := List.mem_map.mp hpair
  have hlt := htakes "a" m hm
  rw [Prod.mk.injEq] at heq
  rw [heq.1, heq.2] at hlt
  exact Nat.lt_irrefl _ hlt

namespace Category

variable {categories : List Category} {c : Category}

theorem findsBoundaries_rule (hfits : firstTooLarge? categories = none) (hc : c ∈ owning categories)
    (h : "" ∈ c.terms) : c.rule.FindsBoundaries := by
  refine ⟨_, compile_rule_of_mem_owning hfits hc, fun text => ?_⟩
  rw [Pattern.search_of_empty_first (TermSet.head?_of_empty_mem h), List.map_map]
  rfl

/-- **A rule makes progress iff its category does not own the empty term.** -/
theorem progresses_rule_iff (hfits : firstTooLarge? categories = none)
    (hc : c ∈ owning categories) : c.rule.Progresses ↔ "" ∉ c.terms := by
  constructor
  · exact fun hprogress h => (findsBoundaries_rule hfits hc h).not_progresses hprogress
  · intro h
    have hne := isEmpty_eq_false_iff.mp (isEmpty_of_mem_owning hc)
    exact ⟨_, compile_rule_of_mem_owning hfits hc,
      fun text => (Pattern.search_finds_terms hne h text).takes⟩

end Category

/-- What an empty term does to the rules of some categories. -/
structure EmptyTermOnly (steps : List Contribution) (order : Precedence)
    (categories : List Category) : Prop where
  /-- The empty term belongs to the first category that a step routes it to. -/
  owner : ∀ c ∈ categories,
    "" ∈ c.terms ↔ IsFirst order.names (fun n => ∃ s ∈ steps, s.Routes n "") c.name
  /-- No match of another rule is empty. -/
  progresses : ∀ c ∈ Category.owning categories, "" ∉ c.terms → c.rule.Progresses
  /-- All matches of its owner's rule are empty. -/
  stands : ∀ c ∈ Category.owning categories, "" ∈ c.terms → c.rule.FindsBoundaries
  /-- So all rules make progress iff no step spells an empty term. -/
  all : (∀ c ∈ Category.owning categories, c.rule.Progresses) ↔ ∀ s ∈ steps, "" ∉ s.spellings

/-- **Which rules make progress.**  Of the rules that are built for what some steps contribute, only that
of the category that owns the empty term has empty matches.  There is none, and no match of any rule
of a category is empty in any text, iff no step spells an empty term. -/
theorem buildRules_progress {steps : List Contribution} {order : Precedence}
    {categories : List Category} {rules : List Rule}
    (h : (buildRules (Candidates.collect steps) order).outcome = .ok (categories, rules)) :
    rules = [baseRule, commentRule, bracketRule, stringRule] ++
        (Category.owning categories).map Category.rule ++ [numericRule, fallbackRule] ∧
      EmptyTermOnly steps order categories := by
  obtain ⟨hresolve, hfits, rfl⟩ := outcome_buildRules_eq_ok_iff.mp h
  have hexact := Candidates.exact_collect steps
  refine ⟨rfl, fun c hc => ?_, fun c hc => (Category.progresses_rule_iff hfits hc).mpr,
    fun c hc => Category.findsBoundaries_rule hfits hc, fun hall s hs hspelled => ?_,
    fun hnone c hc => (Category.progresses_rule_iff hfits hc).mpr fun hempty => ?_⟩
  · rw [mem_terms_resolve_iff hresolve hc]
    exact IsFirst.congr (fun n => hexact.terms n "")
  · obtain ⟨n, hn⟩ := Candidates.exists_mem_collect hs hspelled
    rw [lower_eq_empty_iff.mpr rfl] at hn
    obtain ⟨c, hc, hmem⟩ := exists_mem_terms_of_resolve hresolve hn
    have hown := Category.mem_owning_of_mem_terms hc hmem
    exact (Category.progresses_rule_iff hfits hown).mp (hall c hown) hmem
  · have hlists := listed_of_mem_terms hresolve (List.mem_of_mem_filter hc) hempty
    obtain ⟨s, hs, a, ha, hlower⟩ := Candidates.exists_spelling_of_mem_collect hlists
    rw [lower_eq_empty_iff.mp hlower] at ha
    exact hnone s hs ha

/-- A mapping with a key that is nothing but the mark. -/
def loneMarkSteps : List Contribution :=
  [.source (.mapping "key" "value" [⟨"~", ["Easy"]⟩, ⟨"Skill", []⟩])]

/-- What the two categories of the mapping own. -/
def loneMarkCategories : List Category :=
  [.ofTerms "key" ⟨["", "skill"], by decide⟩, .ofTerms "value" ⟨["easy"], by decide⟩]

theorem outcome_buildRules_loneMark :
    (buildRules (Candidates.collect loneMarkSteps) ⟨["key", "value"]⟩).outcome =
      .ok (loneMarkCategories, ruleList loneMarkCategories) := by
  have hterms : MappingTerms.ofEntries [⟨"~", ["Easy"]⟩, ⟨"Skill", []⟩] =
      ⟨⟨["", "skill"], by decide⟩, ⟨["easy"], by decide⟩⟩ :=
    MappingTerms.ofEntries_of_plain (by decide +kernel) (by decide +kernel)
  have hresolve := resolve_collect_mapping (k := "key") (m := "value") hterms (by decide) (by decide)
  have hkept : loneMarkCategories.map (fun c => c.terms.toList) = [["", "skill"], ["easy"]] := rfl
  have hfits := Category.firstTooLarge?_eq_none_of_shapes hkept (by decide +kernel)
  exact outcome_buildRules_eq_ok_iff.mpr ⟨hresolve, hfits, rfl⟩

/-- The rule of the values makes progress beside that of the keys, which does not. -/
theorem buildRules_progress_loneMark : ∃ categories rules,
    (buildRules (Candidates.collect loneMarkSteps) ⟨["key", "value"]⟩).outcome =
        .ok (categories, rules) ∧
      EmptyTermOnly loneMarkSteps ⟨["key", "value"]⟩ categories ∧
      (Category.owning categories).map (fun c => (c.name, decide ("" ∈ c.terms))) =
        [("key", true), ("value", false)] :=
  ⟨_, _, outcome_buildRules_loneMark, (buildRules_progress outcome_buildRules_loneMark).2,
    by decide +kernel⟩

/-- The empty branch stands in front of `skill`, so its rule finds nothing of that word but two
boundaries. -/
theorem empty_match_in_front_of_word : ∃ categories rules,
    (buildRules (Candidates.collect loneMarkSteps) ⟨["key", "value"]⟩).outcome =
        .ok (categories, rules) ∧
      ∃ r ∈ rules, r.name = some "key" ∧ ∃ p, r.compile = .ok p ∧
        (p.search "skill").map (fun m => (m.start.offset, m.stop.offset)) = [(0, 0), (5, 5)] := by
  have hfits := (outcome_buildRules_eq_ok_iff.mp outcome_buildRules_loneMark).2.1
  have hkey : Category.ofTerms "key" ⟨["", "skill"], by decide⟩ ∈
      Category.owning loneMarkCategories := by decide +kernel
  refine ⟨_, _, outcome_buildRules_loneMark, _, ?_, rfl, _, compile_rule_of_mem_owning hfits hkey, ?_⟩
  · exact List.mem_append_left _ (List.mem_append_right _ (List.mem_map_of_mem hkey))
  · decide +kernel

end KeywordGrammar
