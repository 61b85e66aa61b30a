/-
# The grammar of population files

One configuration comes with the program, and only its data varies from run to run.  Whatever the three
files of the data hold, the order ranks every category that they and the hand-picked terms feed, so a
run fails only if a file does not load (or if a rule is too large).

The keys and values of the third file all feed `keyword`, which is ranked above the category of enum
members.  So whoever owns such a term is ranked no lower than `keyword`, and the term is never taken
for a mere enum member, even where the second file lists it as one (`generate_popfile`).
-/
import KeywordGrammar.Proofs.RuleSizes
import KeywordGrammar.Proofs.RunOutcomes
import KeywordGrammar.Proofs.Summaries

namespace KeywordGrammar

open Unicode Category

/-! ## 1. The branches of rules -/

/-- Whether a rule has a branch for a term. -/
def Rule.hasBranch (r : Rule) (t : String) : Bool :=
  (Pattern.termsOf? r.pattern).any (fun terms => decide (t ∈ terms))

theorem Category.hasBranch_rule {c : Category} (h : c.isEmpty = false) (t : String) :
    c.rule.hasBranch t = decide (t ∈ c.terms) := by
  have hpattern : c.rule.pattern = alternation c.terms.toList := rfl
  rw [Rule.hasBranch, hpattern, Pattern.termsOf?_alternation (isEmpty_eq_false_iff.mp h)]
  rfl

/-- If no two members have a property, then one that has it is the only one. -/
theorem filter_eq_singleton {α : Type} {p : α → Bool} {a : α} {l : List α} (ha : a ∈ l)
    (hpa : p a = true) (h : l.Pairwise (fun x y => p x = true → p y = false)) :
    l.filter p = [a] := by
  obtain ⟨above, below, rfl⟩ := List.append_of_mem ha
  obtain ⟨-, hbelow, habove⟩ := List.pairwise_append.mp h
  have hnone : above.filter p = [] := by
    refine List.filter_eq_nil_iff.mpr (fun x hx hpx => ?_)
    have := habove x hx a List.mem_cons_self hpx
    rw [hpa] at this
    cases this
  have hrest : below.filter p = [] := by
    refine List.filter_eq_nil_iff.mpr (fun x hx => ?_)
    rw [(List.pairwise_cons.mp hbelow).1 x hx hpa]
    exact Bool.false_ne_true
  rw [List.filter_append, hnone, List.filter_cons_of_pos hpa, hrest, List.nil_append]

/-- **A term is a branch of the rule of its owner and of no other.** -/
theorem filter_hasBranch_of_resolve {cands : Candidates} {order : Precedence}
    {categories : List Category} (h : resolve cands order = .ok categories) {c : Category}
    (hc : c ∈ categories) {t : String} (ht : t ∈ c.terms) :
    ((owning categories).map rule).filter (fun r => r.hasBranch t) = [c.rule] := by
  have hbranch : ∀ d ∈ owning categories, d.rule.hasBranch t = decide (t ∈ d.terms) :=
    fun d hd => hasBranch_rule (isEmpty_of_mem_owning hd) t
  have hapart : (owning categories).Pairwise
      (fun x y => decide (t ∈ x.terms) = true → decide (t ∈ y.terms) = false) := by
    refine ((pairwise_disjoint_of_resolve h).filter _).imp (fun hdisjoint htx => ?_)
    exact decide_eq_false (hdisjoint t (of_decide_eq_true htx))
  have honly := filter_eq_singleton (mem_owning_of_mem_terms hc ht) (decide_eq_true ht) hapart
  rw [List.filter_map, Function.comp_def, List.filter_congr hbranch, honly]
  rfl

/-- **A term that is listed for a name is a branch of exactly one rule**, which is that of the name or
of one above it. -/
theorem exists_branch_of_resolve {cands : Candidates} {order : Precedence}
    {categories : List Category} (h : resolve cands order = .ok categories)
    {above below : List String} {n t : String} (hnames : order.names = above ++ n :: below)
    (ht : t ∈ cands.terms n) :
    ∃ r, ((owning categories).map rule).filter (fun r => r.hasBranch t) = [r] ∧
      r.name ∈ (above ++ [n]).map some := by
  obtain ⟨c, hc, hfirst⟩ := exists_owner h ht
  refine ⟨c.rule, filter_hasBranch_of_resolve h hc ((mem_terms_resolve_iff h hc t).mpr hfirst), ?_⟩
  rw [hnames] at hfirst
  exact List.mem_map_of_mem (IsFirst.mem_of_holds ht hfirst)

/-! ## 2. Failures -/

namespace Config

/-- Whether a failure is that of the first source that does not load. -/
def FailsToLoad (files : FileReader) (config : Config) (failure : Failure) : Prop :=
  ∃ above spec below, config.sources = above ++ spec :: below ∧
    (∀ s ∈ above, config.Loads files s) ∧
    Source.load files config.dataDirectory spec = .error failure ∧
    ((∃ cause, failure = .file (config.dataDirectory.join spec.file) cause) ∨
      ∃ cause position, failure = .json (config.dataDirectory.join spec.file) cause position)

/-- Whether a failure is that of a rule that is too large for the terms that its category owns. -/
def IsTooLarge (files : FileReader) (config : Config) (failure : Failure) : Prop :=
  ∃ c terms, config.Owns files c terms ∧ Pattern.fitsLimit (alternation terms) = false ∧
    failure = .pattern ⟨c, .tooLarge⟩

end Config

section Runs

variable {files : FileReader} {config : Config}

/-- If not all sources load, the first that does not is what ends the run. -/
theorem failsToLoad_of_not_loads (h : ¬ ∀ spec ∈ config.sources, config.Loads files spec) :
    ∃ failure, (generate files config).outcome = .error failure ∧ config.FailsToLoad files failure := by
  obtain ⟨above, spec, below, failure, hsources, habove, hspec⟩ := exists_first_failing h
  have houtcome : (loadSources files config.dataDirectory config.sources).outcome = .error failure :=
    hsources ▸ outcome_loadSources_of_error hspec habove
  exact ⟨failure, outcome_generate_of_load_error houtcome,
    above, spec, below, hsources, habove, hspec, Source.cause_of_load hspec⟩

/-- Whether an order repeats no name and ranks all that a configuration feeds. -/
structure Config.IsRanked (config : Config) : Prop where
  nodup : config.precedence.names.Nodup
  feeds : ∀ c, config.Feeds c → c ∈ config.precedence.names

/-- **With such an order, a run that loads its sources has resolved categories.** -/
theorem Config.IsRanked.resolve (hranked : config.IsRanked) {sources : List Source}
    (h : LoadedFrom files config.dataDirectory config.sources sources) :
    ∃ categories, KeywordGrammar.resolve (.collect (config.contributions sources))
      config.precedence = .ok categories :=
  ⟨_, resolve_eq_ok_iff.mpr
    ⟨⟨hranked.nodup, fun _ hn => hranked.feeds _ (fed_of_mem_names h hn)⟩, rfl⟩⟩

/-- With such an order, a run fails for a source or for the size of a rule. -/
theorem Config.IsRanked.failure (hranked : config.IsRanked) {failure : Failure}
    (h : (generate files config).outcome = .error failure) :
    config.FailsToLoad files failure ∨
      (∀ spec ∈ config.sources, config.Loads files spec) ∧ config.IsTooLarge files failure := by
  by_cases hload : ∀ spec ∈ config.sources, config.Loads files spec
  · refine .inr ⟨hload, ?_⟩
    obtain ⟨sources, houtcome, hloaded⟩ := outcome_loadSources hload
    obtain ⟨categories, hresolve⟩ := hranked.resolve hloaded
    rw [outcome_generate_of_load houtcome] at h
    cases hbuild : (buildRules (Candidates.collect (config.contributions sources))
        config.precedence).outcome with
    | ok built =>
      rw [hbuild] at h
      cases h
    | error e =>
      rw [hbuild] at h
      cases h
      obtain ⟨c, howning, hfits, rfl⟩ := outcome_buildRules_eq_error hresolve hbuild
      have howns := owns_of_resolve hloaded hresolve (List.mem_of_mem_filter howning)
      exact ⟨c.name, c.terms.toList, howns, hfits, rfl⟩
  · obtain ⟨failure', houtcome, hfails⟩ := failsToLoad_of_not_loads hload
    rw [houtcome] at h
    cases h
    exact .inl hfails

/-- A run that yields a grammar has loaded its sources and given each term that is routed to its
owner. -/
theorem exists_resolved_of_generate {g : Generation} (h : (generate files config).outcome = .ok g) :
    (∀ spec ∈ config.sources, config.Loads files spec) ∧
      ∃ cands categories, resolve cands config.precedence = .ok categories ∧
        (∀ c t, config.Routes files c t ↔ t ∈ cands.terms c) ∧
        g.grammar.patterns = ruleList categories ∧ g.categories = categories.map summary := by
  by_cases hload : ∀ spec ∈ config.sources, config.Loads files spec
  · refine ⟨hload, ?_⟩
    obtain ⟨sources, houtcome, hloaded⟩ := outcome_loadSources hload
    obtain ⟨cands, categories, hcollect, hresolve, -, rfl⟩ := exists_of_generate h
    rw [collectCandidates, Traced.outcome_bind, houtcome] at hcollect
    cases hcollect
    exact ⟨_, categories, hresolve, fun c t => routes_iff hloaded, rfl, rfl⟩
  · obtain ⟨failure, houtcome, -⟩ := failsToLoad_of_not_loads hload
    rw [houtcome] at h
    cases h

end Runs

/-! ## 3. Population files -/

theorem isRanked_popfile (dir : DataDirectory) : (Config.popfile dir).IsRanked := by
  -- the directory has no part in what is fed and ranked
  constructor
  · show (Config.popfile (.folder "")).precedence.names.Nodup
    decide +kernel
  · have hsources : ∀ spec ∈ (Config.popfile (.folder "")).sources, ∀ c ∈ spec.categories,
        c ∈ (Config.popfile (.folder "")).precedence.names := by decide +kernel
    have hextra : ∀ e ∈ (Config.popfile (.folder "")).extraTerms,
        e.category ∈ (Config.popfile (.folder "")).precedence.names := by decide +kernel
    rintro c (⟨spec, hspec, hc⟩ | ⟨e, he, rfl⟩)
    · exact hsources spec hspec c hc
    · exact hextra e he

/-- The file of the keywords, which feeds one category only. -/
def keysSpec : SourceSpec := ⟨"keys.json", .mapping keyword keyword⟩

/-- Every key and every value of the third file is routed to `keyword`. -/
theorem routes_keyword {files : FileReader} {dir : DataDirectory} {entries : List Entry}
    (h : Source.load files dir keysSpec = .ok (.mapping keyword keyword entries)) {e : Entry}
    (he : e ∈ entries) {raw : String} (hraw : raw ∈ e.key :: e.values) :
    (Config.popfile dir).Routes files keyword (lower (Term.withoutMark raw)) := by
  have hsource : (Source.mapping keyword keyword entries).Routes keyword
      (lower (Term.withoutMark raw)) := by
    rcases List.mem_cons.mp hraw with rfl | hv
    · exact .key he
    · obtain ⟨c, hc, hroutes⟩ := Source.routes_value (k := keyword) (m := keyword) he hv
      have hc : c = keyword := by simpa using hc
      exact hc ▸ hroutes
  have hspec : keysSpec ∈ (Config.popfile dir).sources := by simp [Config.popfile, keysSpec]
  exact routes_of_source hspec h hsource

/-- **The grammar of population files, whatever the data.**  A run fails only for the first of three
files that does not load, or for a rule that is too large.  Otherwise the four categories are there in
their order; a rule has the terms that its category owns; each key and each value of the third file,
marked or not, is a branch of one rule, which is never that of the enum members; and so is each of the
three hand-picked terms a branch of one rule. -/
theorem generate_popfile (files : FileReader) (dir : DataDirectory) :
    (Config.popfile dir).sources.map SourceSpec.file =
        ["keyword.control.txt", "values.json", "keys.json"] ∧
      (∀ failure, (generate files (Config.popfile dir)).outcome = .error failure →
        (Config.popfile dir).FailsToLoad files failure ∨
          (∀ spec ∈ (Config.popfile dir).sources, (Config.popfile dir).Loads files spec) ∧
            (Config.popfile dir).IsTooLarge files failure) ∧
      ∀ g, (generate files (Config.popfile dir)).outcome = .ok g →
        (∀ spec ∈ (Config.popfile dir).sources, (Config.popfile dir).Loads files spec) ∧
        g.categories.map CategorySummary.name = [keywordControl, enumType, keyword, enumMember] ∧
        ∃ dynamic, g.grammar.patterns = [baseRule, commentRule, bracketRule, stringRule] ++ dynamic ++
            [numericRule, fallbackRule] ∧
          (dynamic.map Rule.name).Sublist
            ([keywordControl, enumType, keyword, enumMember].map some) ∧
          (∀ r ∈ dynamic, ∃ c terms, r = .named c (alternation terms) ∧
            (Config.popfile dir).Owns files c terms) ∧
          (∀ entries, Source.load files dir keysSpec = .ok (.mapping keyword keyword entries) →
            ∀ e ∈ entries, ∀ raw ∈ e.key :: e.values,
              ∃ r, dynamic.filter (fun r => r.hasBranch (lower (Term.withoutMark raw))) = [r] ∧
                r.name ∈ [some keywordControl, some enumType, some keyword]) ∧
          ∀ t ∈ ["where", "itemname", "spawnbot"],
            ∃ r, dynamic.filter (fun r => r.hasBranch t) = [r] := by
  have hranked := isRanked_popfile dir
  have hnames : (Config.popfile dir).precedence.names =
      [keywordControl, enumType, keyword, enumMember] := rfl
  refine ⟨rfl, fun failure h => hranked.failure h, fun g h => ?_⟩
  obtain ⟨hload, cands, categories, hresolve, hroutes, hpatterns, hcategories⟩ :=
    exists_resolved_of_generate h
  refine ⟨hload, ?_, (owning categories).map rule, hpatterns, ?_, ?_, ?_, ?_⟩
  · rw [hcategories, List.map_map, ← hnames, ← names_of_resolve hresolve]
    rfl
  · rw [← hnames, ← names_of_resolve hresolve, List.map_map, List.map_map]
    exact List.filter_sublist.map _
  · intro r hr
    obtain ⟨c, hc, rfl⟩ := List.mem_map.mp hr
    refine ⟨c.name, c.terms.toList, rfl, c.terms.increasing, fun t => ?_⟩
    rw [TermSet.mem_toList, mem_terms_resolve_iff hresolve (List.mem_of_mem_filter hc)]
    exact IsFirst.congr (fun n => (hroutes n t).symm)
  · intro entries hentries e he raw hraw
    have hterm := (hroutes _ _).mp (routes_keyword hentries he hraw)
    have hranks : (Config.popfile dir).precedence.names =
        [keywordControl, enumType] ++ keyword :: [enumMember] := rfl
    exact exists_branch_of_resolve hresolve hranks hterm
  · have hextra : ∀ c raw, (∃ e ∈ (Config.popfile dir).extraTerms, e.category = c ∧ raw ∈ e.terms) →
        ∃ r, ((owning categories).map rule).filter (fun r => r.hasBranch (lower raw)) = [r] := by
      rintro c raw ⟨e, he, rfl, hraw⟩
      have hterm := (hroutes _ _).mp (.extra he hraw)
      obtain ⟨d, hd, howns⟩ := exists_mem_terms_of_resolve hresolve hterm
      exact ⟨_, filter_hasBranch_of_resolve hresolve hd howns⟩
    have hlower : lower "where" = "where" ∧ lower "ItemName" = "itemname" ∧
        lower "spawnbot" = "spawnbot" := by decide +kernel
    have hwhere := hextra enumType "where" ⟨_, .head _, rfl, .head _⟩
    have hitem := hextra keyword "ItemName" ⟨_, .tail _ (.head _), rfl, .head _⟩
    have hspawn := hextra enumMember "spawnbot" ⟨_, .tail _ (.tail _ (.head _)), rfl, .head _⟩
    rw [hlower.1] at hwhere
    rw [hlower.2.1] at hitem
    rw [hlower.2.2] at hspawn
    simpa using ⟨hwhere, hitem, hspawn⟩

/-- Three files of which the last has a hand-picked enum member among its values. -/
structure SpawnData (files : FileReader) (dir : DataDirectory) : Prop where
  control : dir.read files (keywordControl ++ ".txt") = .ok "Target\n"
  values : dir.read files "values.json" = .ok "\x7b\x7d"
  keys : dir.read files "keys.json" = .ok "\x7b\"Item\": [\"SpawnBot\"]\x7d"

/-- What is loaded from the three files. -/
def spawnSources : List Source :=
  [.list keywordControl ["Target"], .mapping enumType enumMember [],
    .mapping keyword keyword [⟨"Item", ["SpawnBot"]⟩]]

theorem SpawnData.load_keys {files : FileReader} {dir : DataDirectory} (h : SpawnData files dir) :
    Source.load files dir keysSpec = .ok (.mapping keyword keyword [⟨"Item", ["SpawnBot"]⟩]) := by
  have hread : Mapping.read "\x7b\"Item\": [\"SpawnBot\"]\x7d" = .ok [⟨"Item", ["SpawnBot"]⟩] :=
    eq_ok_of_toOption (by decide +kernel)
  exact Source.load_eq_ok_iff.mpr ⟨_, h.keys, .inr ⟨_, _, _, rfl, hread, rfl⟩⟩

theorem SpawnData.load_sources {files : FileReader} {dir : DataDirectory} (h : SpawnData files dir) :
    (Config.popfile dir).sources.map (Source.load files dir) = spawnSources.map .ok := by
  have hlist : Source.load files dir ⟨keywordControl ++ ".txt", .list⟩ =
      .ok (.list keywordControl ["Target"]) :=
    Source.load_eq_ok_iff.mpr ⟨_, h.control, .inl ⟨rfl, by decide +kernel⟩⟩
  have hread : Mapping.read "\x7b\x7d" = .ok [] := eq_ok_of_toOption (by decide +kernel)
  have hvalues : Source.load files dir ⟨"values.json", .mapping enumType enumMember⟩ =
      .ok (.mapping enumType enumMember []) :=
    Source.load_eq_ok_iff.mpr ⟨_, h.values, .inr ⟨_, _, _, rfl, hread, rfl⟩⟩
  show [_, _, Source.load files dir keysSpec] = _
  rw [hlist, hvalues, h.load_keys]
  rfl

/-- What is gathered from the three files. -/
def spawnCands : Candidates where
  entries := [(enumType, ⟨["where"], by decide⟩), (keyword, ⟨["item", "itemname", "spawnbot"], by decide⟩),
    (keywordControl, ⟨["target"], by decide⟩), (enumMember, ⟨["spawnbot"], by decide⟩)]
  increasing := by decide

theorem collect_spawnSources (dir : DataDirectory) :
    Candidates.collect ((Config.popfile dir).contributions spawnSources) = spawnCands := by
  have hexact := Candidates.exact_collect ((Config.popfile dir).contributions spawnSources)
  have hlower : lower "Target" = "target" ∧ lower "where" = "where" ∧ lower "ItemName" = "itemname" ∧
      lower "spawnbot" = "spawnbot" := by decide +kernel
  have hmapping : (Term.normalize "Item").text = "item" ∧
      Term.normalize "SpawnBot" = ⟨"spawnbot", .memberValue⟩ := by decide +kernel
  have hsteps : (Config.popfile dir).contributions spawnSources =
      spawnSources.map .source ++
        [.extra enumType ["where"], .extra keyword ["ItemName"], .extra enumMember ["spawnbot"]] := rfl
  refine Candidates.ext_terms (fun c => ?_) (fun c t => ?_)
  · rw [hexact.names, hsteps]
    simp [spawnSources, Contribution.categories, Source.categories, Dictionary.names, spawnCands]
    grind
  · rw [hexact.terms, hsteps, Candidates.mem_terms_iff]
    simp only [spawnSources, List.map_cons, List.map_nil, List.cons_append, List.nil_append,
      List.mem_cons, List.not_mem_nil, or_false, exists_eq_or_imp, exists_eq_left,
      Contribution.routes_source_iff, Source.routes_list_iff, Source.routes_mapping_iff,
      Contribution.routes_extra_iff, MappingTerms.mem_keys_ofEntries,
      MappingTerms.mem_members_ofEntries, hlower, hmapping, spawnCands, Prod.mk.injEq, false_and,
      exists_false]
    grind [TermSet.mem_mk]

/-- The three files are enough for a grammar. -/
theorem SpawnData.outcome_generate {files : FileReader} {dir : DataDirectory}
    (h : SpawnData files dir) : ∃ g, (generate files (Config.popfile dir)).outcome = .ok g := by
  have hcontrol : spawnCands.terms keywordControl = ⟨["target"], by decide⟩ := rfl
  have henum : spawnCands.terms enumType = ⟨["where"], by decide⟩ := rfl
  have hkeyword : spawnCands.terms keyword = ⟨["item", "itemname", "spawnbot"], by decide⟩ := rfl
  have hmember : spawnCands.terms enumMember = ⟨["spawnbot"], by decide⟩ := rfl
  have hkept : (keepInOrder spawnCands ∅ [keywordControl, enumType, keyword, enumMember]).map
      (fun c => c.terms.toList) = [["target"], ["where"], ["item", "itemname", "spawnbot"], []] := by
    simp [keepInOrder, Category.keep, hcontrol, henum, hkeyword, hmember]
  have hlarge := firstTooLarge?_eq_none_of_shapes hkept (by decide +kernel)
  have hranked : ∀ n ∈ spawnCands.names, n ∈ [keywordControl, enumType, keyword, enumMember] := by
    decide
  have hresolve := resolve_eq_ok_iff.mpr ⟨⟨(isRanked_popfile dir).nodup, hranked⟩, rfl⟩
  have hbuild := outcome_buildRules_eq_ok_iff.mpr ⟨hresolve, hlarge, rfl⟩
  rw [← collect_spawnSources dir] at hbuild
  exact ⟨_, KeywordGrammar.outcome_generate (outcome_loadSources_of_map_eq h.load_sources) hbuild⟩

/-- The texts of the three files in a directory. -/
def spawnFiles : FileReader := fun path =>
  if path = "data/keyword.control.txt" then .ok "Target\n"
  else if path = "data/values.json" then .ok "\x7b\x7d"
  else if path = "data/keys.json" then .ok "\x7b\"Item\": [\"SpawnBot\"]\x7d"
  else .error .notFound

/-- The value that is also a hand-picked enum member is a branch of the rule of keywords. -/
theorem generate_popfile_spawn : ∃ g dynamic r,
    (generate spawnFiles (Config.popfile (.folder "data"))).outcome = .ok g ∧
      g.grammar.patterns = [baseRule, commentRule, bracketRule, stringRule] ++ dynamic ++
        [numericRule, fallbackRule] ∧
      dynamic.filter (fun r => r.hasBranch (lower (Term.withoutMark "SpawnBot"))) = [r] ∧
      r.name ∈ [some keywordControl, some enumType, some keyword] := by
  have hdata : SpawnData spawnFiles (.folder "data") := ⟨rfl, rfl, rfl⟩
  obtain ⟨g, hok⟩ := hdata.outcome_generate
  obtain ⟨-, -, hsucceeds⟩ := generate_popfile spawnFiles (.folder "data")
  obtain ⟨-, -, dynamic, hpatterns, -, -, hkeys, -⟩ := hsucceeds g hok
  obtain ⟨r, honly, hr⟩ := hkeys _ hdata.load_keys ⟨"Item", ["SpawnBot"]⟩ (.head _) "SpawnBot"
    (.tail _ (.head _))
  exact ⟨g, dynamic, r, hok, hpatterns, honly, hr⟩

end KeywordGrammar
