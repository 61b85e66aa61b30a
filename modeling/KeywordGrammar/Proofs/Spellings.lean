/-
# From the spelling of a term to the rule that finds it

Terms are merged and divided among categories by their lowercase form, and rules compare letters by
their folding.  So for a term that somebody has written down it is not obvious that its own text is
found, by the rule of the category that owns it and by no other.  Each spelling of a term that is a
word is, up to two exceptions that come from the letters alone (`buildRules_recognises`):

* a spelling with a dotted capital I is found by no rule, since it is like no lowercase form;
* terms whose lowercase forms differ can be alike, as `s` and `ſ` are.  Then they can belong to two
  categories, and both rules find both of them.

Both do happen (`spelling_found_by_no_rule_or_by_two`).
-/
import KeywordGrammar.Proofs.Foldings
import KeywordGrammar.Proofs.Routing
import KeywordGrammar.Proofs.RuleSizes
import KeywordGrammar.Proofs.WordClasses

namespace KeywordGrammar

open Unicode

/-! ## 1. Spellings -/

namespace Contribution

/-- The texts that a contribution has for its terms, without the mark of a key or a value. -/
def spellings : Contribution → List String
  | .source (.list _ lines) => lines
  | .source (.mapping _ _ entries) =>
    entries.flatMap (fun e => (e.key :: e.values).map Term.withoutMark)
  | .extra _ terms => terms

theorem mem_spellings_mapping {k m : String} {entries : List Entry} {e : Entry} {raw : String}
    (he : e ∈ entries) (hraw : raw ∈ e.key :: e.values) :
    Term.withoutMark raw ∈ spellings (.source (.mapping k m entries)) :=
  List.mem_flatMap.mpr ⟨e, he, List.mem_map_of_mem hraw⟩

/-- What is spelled gets to some category. -/
theorem exists_routes {s : Contribution} {a : String} (h : a ∈ s.spellings) :
    ∃ c, s.Routes c (lower a) := by
  match s with
  | .source (.list c lines) => exact ⟨c, .source (.line h)⟩
  | .source (.mapping k m entries) =>
    obtain ⟨e, he, ha⟩ := List.mem_flatMap.mp h
    obtain ⟨raw, hraw, rfl⟩ := List.mem_map.mp ha
    rcases List.mem_cons.mp hraw with rfl | hv
    · exact ⟨k, .source (.key he)⟩
    · obtain ⟨c, -, hroutes⟩ := Source.routes_value (k := k) (m := m) he hv
      exact ⟨c, .source hroutes⟩
  | .extra c terms => exact ⟨c, .extra h⟩

/-- What gets to a category is spelled somehow. -/
theorem Routes.exists_spelling {s : Contribution} {c t : String} (h : s.Routes c t) :
    ∃ a ∈ s.spellings, lower a = t := by
  cases h with
  | source hs =>
    cases hs with
    | line hraw => exact ⟨_, hraw, rfl⟩
    | key he => exact ⟨_, mem_spellings_mapping he List.mem_cons_self, rfl⟩
    | marked hmarks =>
      obtain ⟨e, he, v, hv, -, rfl⟩ := hmarks
      exact ⟨_, mem_spellings_mapping he (List.mem_cons_of_mem _ hv), rfl⟩
    | @plain k m v entries e he hv hplain _ =>
      have hbare : Term.withoutMark v = v := by simp [Term.withoutMark, hplain]
      exact ⟨_, mem_spellings_mapping he (List.mem_cons_of_mem _ hv), by rw [hbare]⟩
  | extra hraw => exact ⟨_, hraw, rfl⟩

end Contribution

namespace Candidates

variable {steps : List Contribution}

/-- What some step spells is a candidate. -/
theorem exists_mem_collect {s : Contribution} (hs : s ∈ steps) {a : String} (ha : a ∈ s.spellings) :
    ∃ n, lower a ∈ (collect steps).terms n := by
  obtain ⟨c, hroutes⟩ := Contribution.exists_routes ha
  exact ⟨c, ((exact_collect steps).terms c _).mpr ⟨s, hs, hroutes⟩⟩

/-- A candidate is the lowercase form of something that some step spells. -/
theorem exists_spelling_of_mem_collect {n t : String} (h : t ∈ (collect steps).terms n) :
    ∃ s ∈ steps, ∃ a ∈ s.spellings, lower a = t := by
  obtain ⟨s, hs, hroutes⟩ := ((exact_collect steps).terms n t).mp h
  exact ⟨s, hs, hroutes.exists_spelling⟩

end Candidates

/-! ## 2. Texts that are found as a whole -/

/-- A word is a word of its own text. -/
theorem IsWordTerm.isWordRun {text : String} (h : IsWordTerm text) :
    (Place.start text).IsWordRun text.toList (Place.finish text) :=
  ⟨Place.leads_start_finish text, h.ne_nil, h.word, rfl, rfl⟩

/-- Whether a search of a text with a rule reports a match that is the whole text. -/
def Rule.FindsWhole (r : Rule) (text : String) : Prop :=
  ∃ p, r.compile = .ok p ∧ ∃ m ∈ p.search text, m.span? 0 = some (0, text.utf8ByteSize)

theorem Rule.findsWhole_iff_finds {r : Rule} {text : String} :
    r.FindsWhole text ↔ r.Finds text (.start text) (.finish text) := by
  have hspan : ∀ m : Pattern.Match, m.span? 0 = some (m.start.offset, m.stop.offset) := fun _ => rfl
  have hfinish := Place.offset_finish text
  constructor
  · rintro ⟨p, hp, m, hm, hwhole⟩
    obtain ⟨htext, ⟨s, hleads⟩, -⟩ := Pattern.mem_search hm
    rw [hspan, Option.some.injEq, Prod.mk.injEq] at hwhole
    have hstop : m.stop.text = text.toList := hleads.text_eq.trans htext
    refine ⟨p, hp, m, hm, ?_, ?_⟩
    · exact Place.eq_of_offset_eq htext hwhole.1
    · refine Place.eq_of_offset_eq (hstop.trans ?_) (hwhole.2.trans hfinish.symm)
      exact (Place.leads_start_finish text).text_eq.symm
  · rintro ⟨p, hp, m, hm, hstart, hstop⟩
    refine ⟨p, hp, m, hm, ?_⟩
    rw [hspan, hstart, hstop, hfinish]
    rfl

/-- Categories that were resolved from words, and whose rules can all be used. -/
structure ResolvedWordTerms (cands : Candidates) (order : Precedence) (categories : List Category) :
    Prop where
  resolved : resolve cands order = .ok categories
  fits : Category.firstTooLarge? categories = none
  words : ∀ n, ∀ t ∈ cands.terms n, IsWordTerm t

/-- **The rule of a category finds a word iff one of its terms is like it.** -/
theorem ResolvedWordTerms.findsWhole_iff {cands : Candidates} {order : Precedence}
    {categories : List Category} (h : ResolvedWordTerms cands order categories) {c : Category}
    (hc : c ∈ Category.owning categories) {text : String} (htext : IsWordTerm text) :
    c.rule.FindsWhole text ↔ ∃ t ∈ c.terms, Alike t text := by
  have hne := Category.isEmpty_eq_false_iff.mp (Category.isEmpty_of_mem_owning hc)
  have hwords : ∀ t ∈ c.terms.toList, IsWordTerm t :=
    fun t ht => h.words _ t (listed_of_mem_terms h.resolved (List.mem_of_mem_filter hc) ht)
  rw [Rule.findsWhole_iff_finds, Rule.finds_iff (compile_rule_of_mem_owning h.fits hc),
    Pattern.mem_search_wholeWord_iff_alike hne hwords]
  constructor
  · rintro ⟨-, letters, hrun, t, ht, halike⟩
    rw [hrun.leads.letters_eq (Place.leads_start_finish text)] at halike
    exact ⟨t, ht, halike⟩
  · rintro ⟨t, ht, halike⟩
    exact ⟨rfl, text.toList, htext.isWordRun, t, ht, halike⟩

/-! ## 3. The rules and a spelling -/

/-- What the rules of some categories make of the text of a term that is spelled `a`. -/
structure Recognises (categories : List Category) (a : String) : Prop where
  /-- The term has one owner. -/
  owner : ∃ c ∈ Category.owning categories, ∀ d ∈ categories, lower a ∈ d.terms ↔ d = c
  /-- A rule finds the text iff it has no dotted capital I and the category owns a term like it. -/
  finds : ∀ d ∈ Category.owning categories,
    d.rule.FindsWhole a ↔ 'İ' ∉ a.toList ∧ ∃ t ∈ d.terms, Alike t (lower a)
  /-- The rule of the owner is one that finds it. -/
  ownerFinds : 'İ' ∉ a.toList → ∀ c ∈ categories, lower a ∈ c.terms → c.rule.FindsWhole a
  /-- It is found by the owner's rule and no other iff all terms like it have the same owner. -/
  alone : (∀ d ∈ Category.owning categories, d.rule.FindsWhole a ↔ lower a ∈ d.terms) ↔
    'İ' ∉ a.toList ∧ ∀ d ∈ categories, ∀ t ∈ d.terms, Alike t (lower a) → lower a ∈ d.terms
  /-- Another text with the same lowercase form is found by the same rules. -/
  respelled : 'İ' ∉ a.toList → ∀ b, IsWordTerm b → 'İ' ∉ b.toList → lower b = lower a →
    ∀ d ∈ Category.owning categories, d.rule.FindsWhole b ↔ d.rule.FindsWhole a

namespace ResolvedWordTerms

variable {steps : List Contribution} {order : Precedence} {categories : List Category}

/-- The rule of a category and a spelling, where all candidates were spelled by steps. -/
theorem findsWhole_iff_alike_lower
    (h : ResolvedWordTerms (Candidates.collect steps) order categories) {d : Category}
    (hd : d ∈ Category.owning categories) {a : String} (ha : IsWordTerm a) :
    d.rule.FindsWhole a ↔ 'İ' ∉ a.toList ∧ ∃ t ∈ d.terms, Alike t (lower a) := by
  rw [h.findsWhole_iff hd ha]
  constructor
  · rintro ⟨t, ht, halike⟩
    have hdot : 'İ' ∉ a.toList := by
      intro hdot
      have hlists := listed_of_mem_terms h.resolved (List.mem_of_mem_filter hd) ht
      obtain ⟨-, -, b, -, rfl⟩ := Candidates.exists_spelling_of_mem_collect hlists
      exact not_alike_lower hdot halike
    exact ⟨hdot, t, ht, halike.trans (Alike.lower ha hdot).symm⟩
  · rintro ⟨hdot, t, ht, halike⟩
    exact ⟨t, ht, halike.trans (Alike.lower ha hdot)⟩

/-- The rule of an owner finds a spelling without a dotted capital I. -/
theorem findsWhole_of_mem_terms
    (h : ResolvedWordTerms (Candidates.collect steps) order categories) {d : Category}
    (hd : d ∈ categories) {a : String} (ha : IsWordTerm a) (hdot : 'İ' ∉ a.toList)
    (hmem : lower a ∈ d.terms) : d.rule.FindsWhole a :=
  (h.findsWhole_iff_alike_lower (Category.mem_owning_of_mem_terms hd hmem) ha).mpr
    ⟨hdot, lower a, hmem, rfl⟩

/-- The rules that find a spelling are those of its owners iff no term like it belongs to others. -/
theorem findsWhole_alone_iff
    (h : ResolvedWordTerms (Candidates.collect steps) order categories) {c : Category}
    (hc : c ∈ categories) {a : String} (ha : IsWordTerm a) (hmem : lower a ∈ c.terms) :
    (∀ d ∈ Category.owning categories, d.rule.FindsWhole a ↔ lower a ∈ d.terms) ↔
      'İ' ∉ a.toList ∧ ∀ d ∈ categories, ∀ t ∈ d.terms, Alike t (lower a) → lower a ∈ d.terms := by
  constructor
  · intro halone
    have hown := Category.mem_owning_of_mem_terms hc hmem
    have hfound := (halone c hown).mpr hmem
    have hdot := ((h.findsWhole_iff_alike_lower hown ha).mp hfound).1
    refine ⟨hdot, fun d hd t ht halike => ?_⟩
    have hdown := Category.mem_owning_of_mem_terms hd ht
    exact (halone d hdown).mp ((h.findsWhole_iff_alike_lower hdown ha).mpr ⟨hdot, t, ht, halike⟩)
  · rintro ⟨hdot, hsame⟩ d hd
    have hdmem := List.mem_of_mem_filter hd
    constructor
    · intro hfound
      obtain ⟨-, t, ht, halike⟩ := (h.findsWhole_iff_alike_lower hd ha).mp hfound
      exact hsame d hdmem t ht halike
    · exact h.findsWhole_of_mem_terms hdmem ha hdot

/-- Resolved categories recognise what was spelled. -/
theorem recognises (h : ResolvedWordTerms (Candidates.collect steps) order categories)
    {s : Contribution} (hs : s ∈ steps) {a : String} (hspelled : a ∈ s.spellings)
    (ha : IsWordTerm a) : Recognises categories a := by
  obtain ⟨n, hn⟩ := Candidates.exists_mem_collect hs hspelled
  obtain ⟨c, hc, hmem⟩ := exists_mem_terms_of_resolve h.resolved hn
  refine ⟨⟨c, Category.mem_owning_of_mem_terms hc hmem, fun d hd => ⟨fun hdt => ?_, ?_⟩⟩,
    fun d hd => h.findsWhole_iff_alike_lower hd ha,
    fun hdot d hd => h.findsWhole_of_mem_terms hd ha hdot,
    h.findsWhole_alone_iff hc ha hmem, ?_⟩
  · exact eq_of_mem_terms h.resolved hc hd hmem hdt
  · rintro rfl
    exact hmem
  · intro hdot b hb hbdot hlower d hd
    rw [h.findsWhole_iff_alike_lower hd ha, h.findsWhole_iff_alike_lower hd hb, hlower]
    simp only [hdot, hbdot, not_false_eq_true, true_and]

end ResolvedWordTerms

/-- **What becomes of the spellings of terms.**  The candidates of some contributions are words, and an
order ranks them.  Then only a rule that is too large is an obstacle.  Without one, each spelling that is
a word has one owner; unless it has a dotted capital I it is found as a whole by the owner's rule, and
by no other as long as all candidates that are like it have the same owner. -/
theorem buildRules_recognises {steps : List Contribution} {order : Precedence}
    {categories : List Category}
    (hresolve : resolve (Candidates.collect steps) order = .ok categories)
    (hwords : ∀ n, ∀ t ∈ (Candidates.collect steps).terms n, IsWordTerm t) :
    (∀ e, (buildRules (Candidates.collect steps) order).outcome = .error e →
      ∃ c ∈ Category.owning categories, c.fits = false ∧ e = .pattern ⟨c.name, .tooLarge⟩) ∧
    ∀ found rules, (buildRules (Candidates.collect steps) order).outcome = .ok (found, rules) →
      rules = [baseRule, commentRule, bracketRule, stringRule] ++
        (Category.owning categories).map Category.rule ++ [numericRule, fallbackRule] ∧
      ∀ s ∈ steps, ∀ a ∈ s.spellings, IsWordTerm a → Recognises categories a := by
  refine ⟨fun e he => outcome_buildRules_eq_error hresolve he, fun found rules hok => ?_⟩
  obtain ⟨hfound, hfits, rfl⟩ := outcome_buildRules_eq_ok_iff.mp hok
  rw [hresolve, Except.ok.injEq] at hfound
  subst hfound
  have h : ResolvedWordTerms (Candidates.collect steps) order categories :=
    ⟨hresolve, hfits, hwords⟩
  exact ⟨rfl, fun s hs a hspelled ha => h.recognises hs hspelled ha⟩

/-- Steps that spell words in lowercase, and an order under which no rule is too large. -/
theorem resolvedWordTerms_of_kept {steps : List Contribution} {names : List String}
    (kept : List (List String))
    (hspelled : ∀ s ∈ steps, ∀ a ∈ s.spellings, IsWordTerm (lower a))
    (hranked : names.Nodup ∧ ∀ n ∈ (Candidates.collect steps).names, n ∈ names)
    (hkept : (keepInOrder (Candidates.collect steps) ∅ names).map (fun c => c.terms.toList) = kept)
    (hfits : ∀ terms ∈ kept, (Pattern.Shape.wholeWord Pattern.letterShape
      (terms.map String.toList)).fits compiledSizeLimit = true) :
    ResolvedWordTerms (Candidates.collect steps) ⟨names⟩
      (keepInOrder (Candidates.collect steps) ∅ names) := by
  refine ⟨resolve_eq_ok_iff.mpr ⟨hranked, rfl⟩,
    Category.firstTooLarge?_eq_none_of_shapes hkept hfits, fun n t ht => ?_⟩
  obtain ⟨s, hs, a, ha, rfl⟩ := Candidates.exists_spelling_of_mem_collect ht
  exact hspelled s hs a ha

theorem ResolvedWordTerms.outcome_buildRules {cands : Candidates} {order : Precedence}
    {categories : List Category} (h : ResolvedWordTerms cands order categories) :
    (buildRules cands order).outcome = .ok (categories, ruleList categories) :=
  outcome_buildRules_eq_ok_iff.mpr ⟨h.resolved, h.fits, rfl⟩

/-- A mapping of one entry, whose key is marked like a value. -/
def skillSteps : List Contribution := [.source (.mapping "key" "value" [⟨"~Skill", ["Easy"]⟩])]

theorem buildRules_recognises_skill : ∃ categories rules,
    resolve (Candidates.collect skillSteps) ⟨["key", "value"]⟩ = .ok categories ∧
      (buildRules (Candidates.collect skillSteps) ⟨["key", "value"]⟩).outcome =
        .ok (categories, rules) ∧
      Recognises categories "Skill" ∧ Recognises categories "Easy" := by
  have h : ResolvedWordTerms (Candidates.collect skillSteps) ⟨["key", "value"]⟩ _ :=
    resolvedWordTerms_of_kept [["skill"], ["easy"]] (by decide +kernel)
      (by decide +kernel) (by decide +kernel) (by decide +kernel)
  have hrecognises := ((buildRules_recognises h.resolved h.words).2 _ _ h.outcome_buildRules).2
  exact ⟨_, _, h.resolved, h.outcome_buildRules,
    hrecognises _ List.mem_cons_self "Skill" (by decide +kernel) (by decide +kernel),
    hrecognises _ List.mem_cons_self "Easy" (by decide +kernel) (by decide +kernel)⟩

/-- A term whose lowercase form is two characters. -/
def dottedSteps : List Contribution := [.extra "code" ["İ"]]

/-- Two terms that fold together and have different lowercase forms. -/
def longSteps : List Contribution := [.extra "code" ["s"], .extra "unit" ["ſ"]]

/-- **A spelling may be found by no rule, or by the rules of two categories.**  No rule finds the dotted
capital I, though it was given as a term; and with `s` in one category and `ſ` in another, the rules of
both find `ſ`. -/
theorem spelling_found_by_no_rule_or_by_two :
    (∃ categories rules,
      (buildRules (Candidates.collect dottedSteps) ⟨["code"]⟩).outcome = .ok (categories, rules) ∧
        (∀ n, ∀ t ∈ (Candidates.collect dottedSteps).terms n, IsWordTerm t) ∧
        (∃ s ∈ dottedSteps, "İ" ∈ s.spellings) ∧ IsWordTerm "İ" ∧
        ∀ c ∈ Category.owning categories, ¬ c.rule.FindsWhole "İ") ∧
    ∃ categories rules,
      (buildRules (Candidates.collect longSteps) ⟨["code", "unit"]⟩).outcome =
          .ok (categories, rules) ∧
        (∀ n, ∀ t ∈ (Candidates.collect longSteps).terms n, IsWordTerm t) ∧
        (∃ s ∈ longSteps, "ſ" ∈ s.spellings) ∧ IsWordTerm "ſ" ∧
        ∃ c ∈ Category.owning categories, ∃ d ∈ Category.owning categories, c ≠ d ∧
          c.rule.FindsWhole "ſ" ∧ d.rule.FindsWhole "ſ" := by
  constructor
  · have h : ResolvedWordTerms (Candidates.collect dottedSteps) ⟨["code"]⟩ _ :=
      resolvedWordTerms_of_kept [["i\u0307"]] (by decide +kernel) (by decide +kernel)
        (by decide +kernel) (by decide +kernel)
    have hword : IsWordTerm "İ" := by decide +kernel
    refine ⟨_, _, h.outcome_buildRules, h.words, by decide +kernel, hword, fun c hc hfinds => ?_⟩
    exact ((h.findsWhole_iff_alike_lower hc hword).mp hfinds).1 (by decide)
  · have h : ResolvedWordTerms (Candidates.collect longSteps) ⟨["code", "unit"]⟩ _ :=
      resolvedWordTerms_of_kept [["s"], ["ſ"]] (by decide +kernel) (by decide +kernel)
        (by decide +kernel) (by decide +kernel)
    have hword : IsWordTerm "ſ" := by decide +kernel
    have hcode : Category.ofTerms "code" ⟨["s"], by decide⟩ ∈
        Category.owning (keepInOrder (Candidates.collect longSteps) ∅ ["code", "unit"]) := by
      decide +kernel
    have hunit : Category.ofTerms "unit" ⟨["ſ"], by decide⟩ ∈
        Category.owning (keepInOrder (Candidates.collect longSteps) ∅ ["code", "unit"]) := by
      decide +kernel
    exact ⟨_, _, h.outcome_buildRules, h.words, by decide +kernel, hword, _, hcode, _, hunit,
      by decide, (h.findsWhole_iff hcode hword).mpr ⟨"s", List.mem_cons_self, by decide +kernel⟩,
      (h.findsWhole_iff hunit hword).mpr ⟨"ſ", List.mem_cons_self, rfl⟩⟩

end KeywordGrammar
