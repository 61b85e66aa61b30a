/-
# The account of a run

A run that yields a grammar also says how it came about: there is a summary for each category, the
number of rules, and a warning in the log for each category that lost all its terms.  These accounts
are worked out in different places, the summaries and the warnings from the resolved categories, the
number from the rule list, and `Accounts` says that they agree with each other and with the
candidates.

What categories keep can be added up, since resolved categories share no term and miss none
(`sum_size_of_resolve`).  A rule is compared with its summary by the terms that can be got back from
its pattern.  And of all that a run records, warnings come from resolving alone
(`warnings_of_generate`).
-/
import KeywordGrammar.Proofs.Escaping
import KeywordGrammar.Proofs.Rearrangements
import Mathlib.Algebra.GroupWithZero.Nat
import Mathlib.Data.List.Dedup

namespace KeywordGrammar

open Category

/-! ## 1. Adding up -/

/-- The terms that are listed for any category, each of them once. -/
def Candidates.distinct (cands : Candidates) : List String :=
  (cands.entries.flatMap (fun e => e.2.toList)).dedup

section Resolved

variable {cands : Candidates} {order : Precedence} {categories : List Category}

/-- Resolved categories hold no term twice. -/
theorem nodup_terms_of_resolve (h : resolve cands order = .ok categories) :
    (categories.flatMap (fun c => c.terms.toList)).Nodup := by
  rw [List.nodup_flatMap]
  refine ⟨fun c _ => c.terms.nodup_toList, (pairwise_disjoint_of_resolve h).imp ?_⟩
  intro c d hdisjoint t htc htd
  exact hdisjoint t htc htd

/-- The terms that resolved categories hold are those that are listed. -/
theorem mem_terms_of_resolve_iff (h : resolve cands order = .ok categories) {t : String} :
    t ∈ categories.flatMap (fun c => c.terms.toList) ↔ t ∈ cands.distinct := by
  rw [Candidates.distinct, List.mem_dedup, List.mem_flatMap, List.mem_flatMap]
  constructor
  · rintro ⟨c, hc, ht⟩
    obtain ⟨s, hs, hts⟩ := Candidates.mem_terms_iff.mp (listed_of_mem_terms h hc ht)
    exact ⟨_, hs, hts⟩
  · rintro ⟨⟨n, s⟩, hs, hts⟩
    exact exists_mem_terms_of_resolve h (Candidates.mem_terms_iff.mpr ⟨s, hs, hts⟩)

/-- **What resolved categories keep adds up to the number of different candidate terms.** -/
theorem sum_size_of_resolve (h : resolve cands order = .ok categories) :
    (categories.map (fun c => c.terms.size)).sum = cands.distinct.length := by
  have hperm : (categories.flatMap (fun c => c.terms.toList)).Perm cands.distinct :=
    (List.perm_ext_iff_of_nodup (nodup_terms_of_resolve h) (List.nodup_dedup _)).mpr
      (fun _ => mem_terms_of_resolve_iff h)
  rw [← hperm.length_eq, List.length_flatMap]
  rfl

/-- A resolved category counts what is listed for its name. -/
theorem candidates_of_resolve (h : resolve cands order = .ok categories) {c : Category}
    (hc : c ∈ categories) : c.candidates = (cands.terms c.name).size := by
  obtain ⟨-, rfl⟩ := resolve_eq_ok_iff.mp h
  obtain ⟨i, hi⟩ := List.getElem?_of_mem hc
  rw [getElem?_keepInOrder, Option.map_eq_some_iff] at hi
  obtain ⟨n, -, rfl⟩ := hi
  rfl

end Resolved

/-! ## 2. Warnings -/

/-- The warnings among some events. -/
def warnings (events : List Event) : List Event := events.filter (fun e => decide (e.level = .warn))

theorem warnings_append (events more : List Event) :
    warnings (events ++ more) = warnings events ++ warnings more :=
  List.filter_append _ _

/-- Whether a category lost all that was listed for it. -/
def Category.isShadowed (c : Category) : Bool := c.isEmpty && decide (0 < c.candidates)

theorem level_resolveEvent (c : Category) :
    decide (c.resolveEvent.level = .warn) = c.isShadowed := by
  rw [resolveEvent, isShadowed]
  cases c.isEmpty && decide (0 < c.candidates) with
  | true => rfl
  | false => rfl

theorem warnings_resolveEvents (categories : List Category) :
    warnings (categories.map resolveEvent) =
      (categories.filter isShadowed).map (fun c => .fullyShadowed c.name c.candidates) := by
  have hlevel : (fun e : Event => decide (e.level = .warn)) ∘ resolveEvent = isShadowed :=
    funext level_resolveEvent
  rw [warnings, List.filter_map, hlevel]
  refine List.map_congr_left (fun c hc => ?_)
  have hshadowed := (List.mem_filter.mp hc).2
  rw [isShadowed] at hshadowed
  rw [resolveEvent, if_pos hshadowed]

theorem warnings_omissionEvents (categories : List Category) :
    warnings (omissionEvents categories) = [] := by
  rw [warnings, omissionEvents, List.filter_map]
  simp [Event.level]

theorem warnings_mergeEvents (s : Source) : warnings s.mergeEvents = [] := by
  cases s with
  | list c lines => rfl
  | mapping k m entries => rfl

/-- Two steps of which neither warns of anything. -/
theorem warnings_bind_eq_nil {α β : Type} {t : Traced α} {next : α → Traced β}
    (h : warnings t.events = []) (hnext : ∀ a, warnings (next a).events = []) :
    warnings (t >>= next).events = [] := by
  rw [Traced.events_bind, warnings_append, h, List.nil_append]
  cases t.outcome with
  | ok a => exact hnext a
  | error failure => rfl

/-- Loading warns of nothing. -/
theorem warnings_loadSources (files : FileReader) (dir : DataDirectory) :
    ∀ specs : List SourceSpec, warnings (loadSources files dir specs).events = []
  | [] => rfl
  | spec :: specs => by
    have ih := warnings_loadSources files dir specs
    refine warnings_bind_eq_nil rfl (fun source => ?_)
    refine warnings_bind_eq_nil rfl (fun _ => ?_)
    refine warnings_bind_eq_nil ?_ (fun _ => rfl)
    exact warnings_bind_eq_nil (warnings_mergeEvents source) (fun _ => ih)

/-! ## 3. The parts of a run -/

/-- What a run that yields a grammar went through. -/
theorem exists_of_generate {files : FileReader} {config : Config} {g : Generation}
    (h : (generate files config).outcome = .ok g) : ∃ cands categories,
      (collectCandidates files config).outcome = .ok cands ∧
        resolve cands config.precedence = .ok categories ∧
        firstTooLarge? categories = none ∧
        g = ⟨config.grammar (ruleList categories), categories.map summary,
          (ruleList categories).length⟩ := by
  rw [generate, Traced.outcome_bind] at h
  cases hcollect : (collectCandidates files config).outcome with
  | error failure =>
    rw [hcollect] at h
    cases h
  | ok cands =>
    rw [hcollect, Except.bind, Traced.outcome_bind] at h
    cases hbuild : (buildRules cands config.precedence).outcome with
    | error failure =>
      rw [hbuild] at h
      cases h
    | ok built =>
      obtain ⟨categories, rules⟩ := built
      rw [hbuild] at h
      cases h
      obtain ⟨hresolve, hfits, rfl⟩ := outcome_buildRules_eq_ok_iff.mp hbuild
      exact ⟨cands, categories, rfl, hresolve, hfits, rfl⟩

/-- **The warnings of a run name the categories that lost all their terms.** -/
theorem warnings_of_generate {files : FileReader} {config : Config} {cands : Candidates}
    {categories : List Category} (hcollect : (collectCandidates files config).outcome = .ok cands)
    (hresolve : resolve cands config.precedence = .ok categories)
    (hfits : firstTooLarge? categories = none) :
    warnings (generate files config).events =
      (categories.filter isShadowed).map (fun c => .fullyShadowed c.name c.candidates) := by
  have hload : warnings (collectCandidates files config).events = [] :=
    warnings_bind_eq_nil (warnings_loadSources _ _ _) (fun _ => rfl)
  have hbuild : warnings (buildRules cands config.precedence).events =
      (categories.filter isShadowed).map (fun c => .fullyShadowed c.name c.candidates) := by
    simp only [buildRules, Traced.events_bind, Traced.ofExcept, hresolve, mapError_ok,
      Traced.events_pure, assemble_eq_ruleList, hfits, warnings_append, warnings_resolveEvents,
      warnings_omissionEvents, List.append_nil]
    simp [warnings]
  have houtcome := outcome_buildRules_eq_ok_iff.mpr ⟨hresolve, hfits, rfl⟩
  rw [generate, Traced.events_bind, warnings_append, hload, List.nil_append, hcollect]
  simp only [Traced.events_bind, warnings_append, hbuild, houtcome, Traced.record,
    Traced.events_pure]
  simp [warnings, Event.level]

/-! ## 4. The accounts together -/

/-- The accounts of a run agree with each other, and with the candidates that it gathered. -/
structure Accounts (cands : Candidates) (order : Precedence) (g : Generation) (events : List Event) :
    Prop where
  /-- There is one summary for each name, in the order's sequence. -/
  names : g.categories.map CategorySummary.name = order.names
  nodup : order.names.Nodup
  /-- A summary counts what is listed for its name. -/
  listed : ∀ s ∈ g.categories, s.candidates = (cands.terms s.name).size
  /-- What a category kept and what it lost make up what is listed for it. -/
  shares : ∀ s ∈ g.categories, s.kept ≤ s.candidates ∧ s.kept + s.shadowed = s.candidates
  emitted : ∀ s ∈ g.categories, s.emitted = true ↔ 0 < s.kept
  /-- Six rules do not stand for a category. -/
  rules : g.rules = g.grammar.patterns.length ∧
    g.rules = 6 + (g.categories.filter CategorySummary.emitted).length
  /-- Behind the four structural rules there is one rule for each category that kept something, with
  as many branches as it kept terms. -/
  branches : ∀ i s, (g.categories.filter CategorySummary.emitted)[i]? = some s →
    ∃ r terms, g.grammar.patterns[4 + i]? = some r ∧ r.name = some s.name ∧
      Pattern.termsOf? r.pattern = some terms ∧ terms.length = s.kept
  /-- Every candidate term is kept by one category. -/
  total : (g.categories.map CategorySummary.kept).sum = cands.distinct.length
  /-- The warnings name the categories that lost all their terms, in the order's sequence. -/
  warned : warnings events =
    (g.categories.filter (fun s => decide (0 < s.candidates ∧ s.kept = 0))).map
      (fun s => .fullyShadowed s.name s.candidates)

theorem length_ruleList (categories : List Category) :
    (ruleList categories).length = 6 + (owning categories).length := by
  simp only [ruleList, List.length_append, List.length_cons, List.length_nil, List.length_map]
  omega

theorem getElem?_ruleList {categories : List Category} {i : Nat} {c : Category}
    (h : (owning categories)[i]? = some c) : (ruleList categories)[4 + i]? = some c.rule := by
  obtain ⟨hi, rfl⟩ := List.getElem?_eq_some_iff.mp h
  rw [ruleList, List.append_assoc, List.getElem?_append_right (by simp),
    List.getElem?_append_left (by simpa using hi)]
  simp [h]

/-- The summaries of a category with a rule are those of the categories that own a term. -/
theorem filter_emitted_summaries (categories : List Category) :
    (categories.map summary).filter CategorySummary.emitted = (owning categories).map summary :=
  List.filter_map

theorem Category.isEmpty_iff_size {c : Category} : c.isEmpty = true ↔ c.terms.size = 0 :=
  TermSet.isEmpty_iff

theorem filter_shadowed_summaries (categories : List Category) :
    (categories.map summary).filter (fun s => decide (0 < s.candidates ∧ s.kept = 0)) =
      (categories.filter isShadowed).map summary := by
  rw [List.filter_map]
  congr 1
  refine List.filter_congr (fun c _ => ?_)
  rw [Bool.eq_iff_iff, isShadowed, Bool.and_eq_true, isEmpty_iff_size, and_comm, decide_eq_true_iff]
  exact decide_eq_true_iff

/-- **The accounts of a run agree.**  Whenever there is a grammar, the summaries, the number of rules,
the rules themselves and the warnings say the same. -/
theorem generate_accounts {files : FileReader} {config : Config} {g : Generation}
    (h : (generate files config).outcome = .ok g) :
    ∃ cands, (collectCandidates files config).outcome = .ok cands ∧
      Accounts cands config.precedence g (generate files config).events := by
  obtain ⟨cands, categories, hcollect, hresolve, hfits, rfl⟩ := exists_of_generate h
  refine ⟨cands, hcollect, ?_, (resolve_eq_ok_iff.mp hresolve).1.1, ?_, ?_, ?_, ⟨rfl, ?_⟩, ?_, ?_, ?_⟩
  · rw [← names_of_resolve hresolve, List.map_map]
    rfl
  · intro s hs
    obtain ⟨c, hc, rfl⟩ := List.mem_map.mp hs
    exact candidates_of_resolve hresolve hc
  · intro s hs
    obtain ⟨c, -, rfl⟩ := List.mem_map.mp hs
    exact ⟨c.size_le, c.size_add_shadowed⟩
  · intro s hs
    obtain ⟨c, -, rfl⟩ := List.mem_map.mp hs
    simp only [summary, Bool.not_eq_true', ← Bool.not_eq_true, isEmpty_iff_size]
    omega
  · rw [length_ruleList, filter_emitted_summaries, List.length_map]
  · intro i s hi
    rw [filter_emitted_summaries, List.getElem?_map, Option.map_eq_some_iff] at hi
    obtain ⟨c, hc, rfl⟩ := hi
    have hne := isEmpty_eq_false_iff.mp (isEmpty_of_mem_owning (List.mem_of_getElem? hc))
    exact ⟨c.rule, c.terms.toList, getElem?_ruleList hc, rfl, Pattern.termsOf?_alternation hne, rfl⟩
  · rw [← sum_size_of_resolve hresolve, List.map_map]
    rfl
  · rw [warnings_of_generate hcollect hresolve hfits, filter_shadowed_summaries, List.map_map]
    rfl

/-- Two lists of which the second loses all its terms, and a name without a list. -/
def nestedLevels : Config where
  name := "Levels"
  scopeName := "source.levels"
  schema := none
  dataDirectory := .folder "data"
  sources := []
  extraTerms := [⟨"high", ["21", "12", "21"]⟩, ⟨"low", ["12"]⟩]
  precedence := ⟨["high", "none", "low"]⟩

/-- What is gathered from the two lists. -/
def nestedCands : Candidates where
  entries := [("high", ⟨["12", "21"], by decide⟩), ("low", ⟨["12"], by decide⟩)]
  increasing := by decide

theorem collect_nestedLevels : Candidates.collect (nestedLevels.contributions []) = nestedCands := by
  have hexact := Candidates.exact_collect (nestedLevels.contributions [])
  have hlower : Unicode.lower "12" = "12" ∧ Unicode.lower "21" = "21" := by decide +kernel
  have hsteps : nestedLevels.contributions [] =
      [.extra "high" ["21", "12", "21"], .extra "low" ["12"]] := rfl
  refine Candidates.ext_terms (fun c => ?_) (fun c t => ?_)
  · rw [hexact.names, hsteps]
    simp [Contribution.categories, Dictionary.names, nestedCands]
  · rw [hexact.terms, hsteps, Candidates.mem_terms_iff]
    simp only [List.mem_cons, List.not_mem_nil, or_false, exists_eq_or_imp, exists_eq_left,
      Contribution.routes_extra_iff, hlower, nestedCands, Prod.mk.injEq]
    grind [TermSet.mem_mk]

/-- The second list is warned of, and the two terms are counted once each. -/
theorem generate_accounts_nested : ∃ g,
    (generate (fun _ => .error .notFound) nestedLevels).outcome = .ok g ∧
      Accounts nestedCands nestedLevels.precedence g
        (generate (fun _ => .error .notFound) nestedLevels).events ∧
      g.categories = [⟨"high", 2, 2, 0, true⟩, ⟨"none", 0, 0, 0, false⟩, ⟨"low", 1, 0, 1, false⟩] ∧
      warnings (generate (fun _ => .error .notFound) nestedLevels).events = [.fullyShadowed "low" 1] ∧
      nestedCands.distinct.length = 2 := by
  have hranked : ∀ n ∈ nestedCands.names, n ∈ ["high", "none", "low"] := by decide
  have hresolve : resolve nestedCands nestedLevels.precedence =
      .ok (keepInOrder nestedCands ∅ ["high", "none", "low"]) :=
    resolve_eq_ok_iff.mpr ⟨⟨by decide, hranked⟩, rfl⟩
  have hhigh : nestedCands.terms "high" = ⟨["12", "21"], by decide⟩ := rfl
  have hnone : nestedCands.terms "none" = ∅ := rfl
  have hlow : nestedCands.terms "low" = ⟨["12"], by decide⟩ := rfl
  have hkept : (keepInOrder nestedCands ∅ ["high", "none", "low"]).map (fun c => c.terms.toList) =
      [["12", "21"], [], []] := by
    simp [keepInOrder, Category.keep, hhigh, hnone, hlow]
  have hlarge := firstTooLarge?_eq_none_of_map hkept (by decide +kernel)
  have hsummaries : (keepInOrder nestedCands ∅ ["high", "none", "low"]).map summary =
      [⟨"high", 2, 2, 0, true⟩, ⟨"none", 0, 0, 0, false⟩, ⟨"low", 1, 0, 1, false⟩] := by
    simp [keepInOrder, Category.keep, summary, shadowed, Category.isEmpty, TermSet.isEmpty,
      TermSet.size, hhigh, hnone, hlow]
  have hbuild := outcome_buildRules_eq_ok_iff.mpr ⟨hresolve, hlarge, rfl⟩
  rw [← collect_nestedLevels] at hbuild
  have hload : (loadSources (fun _ => .error .notFound) nestedLevels.dataDirectory
      nestedLevels.sources).outcome = .ok [] := rfl
  have hok := outcome_generate hload hbuild
  obtain ⟨cands, hcands, haccounts⟩ := generate_accounts hok
  have hcollect : (collectCandidates (fun _ => .error .notFound) nestedLevels).outcome =
      .ok nestedCands := by
    rw [← collect_nestedLevels]
    rfl
  rw [hcollect] at hcands
  cases hcands
  rw [collect_nestedLevels, hsummaries] at haccounts
  refine ⟨_, hok, ?_, ?_, haccounts.warned, haccounts.total.symm⟩
  · rw [collect_nestedLevels, hsummaries]
    exact haccounts
  · rw [collect_nestedLevels]
    exact hsummaries

end KeywordGrammar
