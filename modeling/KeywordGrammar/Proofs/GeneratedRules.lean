/-
# The rules of a generated grammar

A run goes from files to a rule list in four stages: sources are loaded, their terms are gathered,
every term gets an owner, and the owners get their rules.  Each stage has its own result; this file
puts them together, so that what a rule holds can be read off the files and the configuration.

* `Config.Routes` lists the ways in which a term of a file, or one that was picked by hand, gets to
  a category.  `routes_iff` says that gathering the loaded sources amounts to it.
* `Precedence.owned` are the terms of which a category is the first of the order to list them, as an
  increasing list; `toList_eq_owned` says that resolving leaves exactly these.
* `generate_rules` is the result: with sources that load and an order that ranks what they feed, there
  is a grammar, and its rules are those of the owned terms.
-/
import KeywordGrammar.Proofs.Ownership
import KeywordGrammar.Proofs.Routing
import KeywordGrammar.Proofs.RuleLists

namespace KeywordGrammar

open Unicode

/-! ## 1. From files to categories -/

/-- The categories that a source of the configuration feeds. -/
def SourceSpec.categories (spec : SourceSpec) : List String :=
  match spec.kind with
  | .list => [Path.stem spec.file]
  | .mapping keyCategory memberCategory => [keyCategory, memberCategory]

namespace Config

/-- Whether some lines are those of a flat list of the configuration, which feeds `c`. -/
def Lists (files : FileReader) (config : Config) (c : String) (lines : List String) : Prop :=
  ∃ spec ∈ config.sources, spec.kind = .list ∧ c = Path.stem spec.file ∧
    ∃ text, config.dataDirectory.read files spec.file = .ok text ∧ lines = Text.termLines text

/-- Whether some entries are those of a mapping of the configuration, which feeds `k` and `m`. -/
def Maps (files : FileReader) (config : Config) (k m : String) (entries : List Entry) : Prop :=
  ∃ spec ∈ config.sources, spec.kind = .mapping k m ∧
    ∃ text, config.dataDirectory.read files spec.file = .ok text ∧ Mapping.read text = .ok entries

/-- The ways in which a configuration routes a term to a category. -/
inductive Routes (files : FileReader) (config : Config) : String → String → Prop where
  | line {c raw : String} {lines : List String} :
      config.Lists files c lines → raw ∈ lines → Routes files config c (lower raw)
  | key {k m : String} {entries : List Entry} {e : Entry} :
      config.Maps files k m entries → e ∈ entries →
        Routes files config k (lower (Term.withoutMark e.key))
  | marked {k m t : String} {entries : List Entry} :
      config.Maps files k m entries → Marks entries t → Routes files config k t
  | plain {k m v : String} {entries : List Entry} {e : Entry} :
      config.Maps files k m entries → e ∈ entries → v ∈ e.values → Term.isMarked v = false →
        ¬ Marks entries (lower v) → Routes files config m (lower v)
  | extra {e : ExtraTerms} {raw : String} :
      e ∈ config.extraTerms → raw ∈ e.terms → Routes files config e.category (lower raw)

end Config

/-! ## 2. Loading -/

theorem Source.load_eq_ok_iff {files : FileReader} {dir : DataDirectory} {spec : SourceSpec}
    {s : Source} : Source.load files dir spec = .ok s ↔
      ∃ text, dir.read files spec.file = .ok text ∧
        ((spec.kind = .list ∧ s = .list (Path.stem spec.file) (Text.termLines text)) ∨
          ∃ k m entries, spec.kind = .mapping k m ∧ Mapping.read text = .ok entries ∧
            s = .mapping k m entries) := by
  unfold load
  cases dir.read files spec.file with
  | error cause => simp
  | ok text =>
    simp only [ofText, Except.ok.injEq, exists_eq_left']
    cases spec.kind with
    | list => simp [SourceSpec.listCategory, eq_comm]
    | mapping k m =>
      cases hread : Mapping.read text with
      | error fault => simp
      | ok entries => simp [eq_comm]

/-- A loaded source names the categories that its specification feeds. -/
theorem Source.categories_of_load {files : FileReader} {dir : DataDirectory} {spec : SourceSpec}
    {s : Source} (h : Source.load files dir spec = .ok s) : s.categories = spec.categories := by
  obtain ⟨text, -, ⟨hkind, rfl⟩ | ⟨k, m, entries, hkind, -, rfl⟩⟩ := load_eq_ok_iff.mp h
  · rw [SourceSpec.categories, hkind]
    rfl
  · rw [SourceSpec.categories, hkind]
    rfl

/-- Whether some sources are those that are loaded for some specifications. -/
def LoadedFrom (files : FileReader) (dir : DataDirectory) (specs : List SourceSpec)
    (sources : List Source) : Prop :=
  ∀ s, s ∈ sources ↔ ∃ spec ∈ specs, Source.load files dir spec = .ok s

theorem loadedFrom_of_map_eq {files : FileReader} {dir : DataDirectory}
    {specs : List SourceSpec} {sources : List Source}
    (h : specs.map (Source.load files dir) = sources.map .ok) :
    LoadedFrom files dir specs sources := by
  intro s
  rw [← List.mem_map (f := Source.load files dir), h]
  simp

/-- Sources that load one by one load in a run. -/
theorem outcome_loadSources_of_map_eq {files : FileReader} {dir : DataDirectory}
    {specs : List SourceSpec} {sources : List Source}
    (h : specs.map (Source.load files dir) = sources.map .ok) :
    (loadSources files dir specs).outcome = .ok sources := by
  induction specs generalizing sources with
  | nil =>
    cases sources with
    | nil => rfl
    | cons s sources => cases h
  | cons spec specs ih =>
    cases sources with
    | nil => cases h
    | cons s sources =>
      obtain ⟨hfirst, hrest⟩ := List.cons.inj h
      simp only [loadSources, Traced.outcome_bind, Traced.ofExcept, Traced.record, hfirst,
        Except.bind, ih hrest, Traced.outcome_pure]

theorem exists_map_eq_of_load {files : FileReader} {dir : DataDirectory} {specs : List SourceSpec}
    (h : ∀ spec ∈ specs, ∃ s, Source.load files dir spec = .ok s) :
    ∃ sources : List Source, specs.map (Source.load files dir) = sources.map .ok := by
  induction specs with
  | nil => exact ⟨[], rfl⟩
  | cons spec specs ih =>
    obtain ⟨source, hsource⟩ := h spec List.mem_cons_self
    obtain ⟨sources, hsources⟩ := ih (fun spec hs => h spec (List.mem_cons_of_mem _ hs))
    exact ⟨source :: sources, by rw [List.map_cons, List.map_cons, hsource, hsources]⟩

/-- If each source loads, then there is what all of them load. -/
theorem outcome_loadSources {files : FileReader} {dir : DataDirectory} {specs : List SourceSpec}
    (h : ∀ spec ∈ specs, ∃ s, Source.load files dir spec = .ok s) :
    ∃ sources, (loadSources files dir specs).outcome = .ok sources ∧
      LoadedFrom files dir specs sources := by
  obtain ⟨sources, hmap⟩ := exists_map_eq_of_load h
  exact ⟨sources, outcome_loadSources_of_map_eq hmap, loadedFrom_of_map_eq hmap⟩

/-! ## 3. Gathering -/

section Loaded

variable {files : FileReader} {config : Config} {sources : List Source}

theorem mem_contributions {step : Contribution} : step ∈ config.contributions sources ↔
    (∃ s ∈ sources, step = .source s) ∨
      ∃ e ∈ config.extraTerms, step = .extra e.category e.terms := by
  simp [Config.contributions, eq_comm]

/-- What a loaded source routes is routed by the configuration. -/
theorem routes_of_source {spec : SourceSpec} (hspec : spec ∈ config.sources) {s : Source}
    (hload : Source.load files config.dataDirectory spec = .ok s) {c t : String}
    (hroutes : s.Routes c t) : config.Routes files c t := by
  obtain ⟨text, hread, ⟨hkind, rfl⟩ | ⟨k, m, entries, hkind, hentries, rfl⟩⟩ :=
    Source.load_eq_ok_iff.mp hload
  · cases hroutes with
    | line hraw => exact .line ⟨spec, hspec, hkind, rfl, text, hread, rfl⟩ hraw
  · have hm : config.Maps files k m entries := ⟨spec, hspec, hkind, text, hread, hentries⟩
    cases hroutes with
    | key he => exact .key hm he
    | marked hmarks => exact .marked hm hmarks
    | plain he hv hp hmarks => exact .plain hm he hv hp hmarks

/-- **Gathering the loaded sources routes what the files and the configuration route.** -/
theorem routes_iff (h : LoadedFrom files config.dataDirectory config.sources sources)
    {c t : String} : config.Routes files c t ↔
      t ∈ (Candidates.collect (config.contributions sources)).terms c := by
  rw [(Candidates.exact_collect (config.contributions sources)).terms]
  have hmaps : ∀ {k m entries}, config.Maps files k m entries →
      .source (.mapping k m entries) ∈ config.contributions sources := by
    rintro k m entries ⟨spec, hspec, hkind, text, hread, hentries⟩
    have hload := Source.load_eq_ok_iff.mpr ⟨text, hread, .inr ⟨k, m, entries, hkind, hentries, rfl⟩⟩
    exact mem_contributions.mpr (.inl ⟨_, (h _).mpr ⟨spec, hspec, hload⟩, rfl⟩)
  constructor
  · intro hroutes
    cases hroutes with
    | line hlists hraw =>
      obtain ⟨spec, hspec, hkind, rfl, text, hread, rfl⟩ := hlists
      have hload := Source.load_eq_ok_iff.mpr ⟨text, hread, .inl ⟨hkind, rfl⟩⟩
      exact ⟨_, mem_contributions.mpr (.inl ⟨_, (h _).mpr ⟨spec, hspec, hload⟩, rfl⟩),
        .source (.line hraw)⟩
    | key hm he => exact ⟨_, hmaps hm, .source (.key he)⟩
    | marked hm hmarks => exact ⟨_, hmaps hm, .source (.marked hmarks)⟩
    | plain hm he hv hp hmarks => exact ⟨_, hmaps hm, .source (.plain he hv hp hmarks)⟩
    | extra he hraw => exact ⟨_, mem_contributions.mpr (.inr ⟨_, he, rfl⟩), .extra hraw⟩
  · rintro ⟨step, hstep, hroutes⟩
    rcases mem_contributions.mp hstep with ⟨s, hs, rfl⟩ | ⟨e, he, rfl⟩
    · obtain ⟨spec, hspec, hload⟩ := (h s).mp hs
      exact routes_of_source hspec hload (Contribution.routes_source_iff.mp hroutes)
    · obtain ⟨rfl, raw, hraw, rfl⟩ := Contribution.routes_extra_iff.mp hroutes
      exact .extra he hraw

/-- What is gathered names only categories that the configuration feeds. -/
theorem fed_of_mem_names (h : LoadedFrom files config.dataDirectory config.sources sources)
    {c : String} (hc : c ∈ (Candidates.collect (config.contributions sources)).names) :
    (∃ spec ∈ config.sources, c ∈ spec.categories) ∨ ∃ e ∈ config.extraTerms, c = e.category := by
  rw [(Candidates.exact_collect (config.contributions sources)).names] at hc
  obtain ⟨step, hstep, hc⟩ := hc
  rcases mem_contributions.mp hstep with ⟨s, hs, rfl⟩ | ⟨e, he, rfl⟩
  · obtain ⟨spec, hspec, hload⟩ := (h s).mp hs
    refine .inl ⟨spec, hspec, ?_⟩
    rw [← Source.categories_of_load hload]
    exact hc
  · exact .inr ⟨e, he, List.mem_singleton.mp hc⟩

end Loaded

/-! ## 4. Owned terms -/

/-- The first name with a property is the one that is found. -/
theorem isFirst_iff_find? {names : List String} {holds : String → Prop} [DecidablePred holds]
    {name : String} : IsFirst names holds name ↔
      names.find? (fun n => decide (holds n)) = some name := by
  rw [List.find?_eq_some_iff_append]
  constructor
  · rintro ⟨above, below, heq, hname, habove⟩
    exact ⟨by simpa using hname, above, below, heq, by simpa using habove⟩
  · rintro ⟨hname, above, below, heq, habove⟩
    exact ⟨above, below, heq, by simpa using hname, by simpa using habove⟩

/-- The terms that a name is the first of the order to list, in increasing order. -/
def Precedence.owned (order : Precedence) (cands : Candidates) (name : String) : List String :=
  (cands.terms name).toList.filter
    (fun t => order.names.find? (fun n => decide (t ∈ cands.terms n)) = some name)

section Owned

variable {cands : Candidates} {order : Precedence} {categories : List Category}

theorem Precedence.pairwise_owned (name : String) :
    (order.owned cands name).Pairwise (· < ·) :=
  (cands.terms name).increasing.filter _

theorem Precedence.mem_owned_iff {name t : String} :
    t ∈ order.owned cands name ↔ IsFirst order.names (fun n => t ∈ cands.terms n) name := by
  rw [owned, List.mem_filter, decide_eq_true_eq, ← isFirst_iff_find?, TermSet.mem_toList]
  constructor
  · exact And.right
  · intro h
    obtain ⟨-, -, -, hname, -⟩ := id h
    exact ⟨hname, h⟩

/-- **A resolved category holds the terms that its name owns.** -/
theorem toList_eq_owned (h : resolve cands order = .ok categories) {c : Category}
    (hc : c ∈ categories) : c.terms.toList = order.owned cands c.name := by
  refine eq_of_pairwise_lt c.terms.increasing (Precedence.pairwise_owned c.name) (fun t => ?_)
  rw [TermSet.mem_toList, mem_terms_resolve_iff h hc, Precedence.mem_owned_iff]

/-- The rule for the terms that a name owns. -/
def Precedence.ownedRule (order : Precedence) (cands : Candidates) (name : String) : Rule :=
  .named name (alternation (order.owned cands name))

/-- The rules of resolved categories are those for the owned terms, in the order's sequence. -/
theorem map_rule_owning (h : resolve cands order = .ok categories) :
    (Category.owning categories).map Category.rule =
      (order.names.filter (fun n => !(order.owned cands n).isEmpty)).map
        (order.ownedRule cands) := by
  have hempty : ∀ c ∈ categories, (!c.isEmpty) = !(order.owned cands c.name).isEmpty := by
    intro c hc
    rw [← toList_eq_owned h hc]
    rfl
  rw [← names_of_resolve h, List.filter_map, List.map_map, Category.owning,
    List.filter_congr hempty]
  refine List.map_congr_left (fun c hc => ?_)
  rw [Category.rule, toList_eq_owned h (List.mem_of_mem_filter hc)]
  rfl

/-- No rule is too large if none of those for owned terms is. -/
theorem firstTooLarge?_eq_none (h : resolve cands order = .ok categories)
    (hfits : ∀ n ∈ order.names, order.owned cands n ≠ [] →
      Pattern.fitsLimit (alternation (order.owned cands n)) = true) :
    Category.firstTooLarge? categories = none := by
  rw [Category.firstTooLarge?, List.find?_eq_none]
  intro c hc
  have hmem := List.mem_of_mem_filter hc
  have hname : c.name ∈ order.names := by
    rw [← names_of_resolve h]
    exact List.mem_map_of_mem hmem
  have hne := Category.isEmpty_eq_false_iff.mp (Category.isEmpty_of_mem_owning hc)
  have hterms := toList_eq_owned h hmem
  rw [hterms] at hne
  simp [Category.fits, hterms, hfits c.name hname hne]

end Owned

/-! ## 5. Whole runs -/

/-- Behind the loading, a run depends on what the sources contribute. -/
theorem outcome_generate_of_load {files : FileReader} {config : Config} {sources : List Source}
    (h : (loadSources files config.dataDirectory config.sources).outcome = .ok sources) :
    (generate files config).outcome =
      (buildRules (Candidates.collect (config.contributions sources)) config.precedence).outcome.map
        (fun built => ⟨config.grammar built.2, built.1.map Category.summary, built.2.length⟩) := by
  simp only [generate, collectCandidates, Traced.outcome_bind, Traced.outcome_pure, h, Except.bind]
  cases (buildRules (Candidates.collect (config.contributions sources)) config.precedence).outcome with
  | error failure => rfl
  | ok built => rfl

/-- What the last stages of a run yield. -/
theorem outcome_generate {files : FileReader} {config : Config} {sources : List Source}
    {categories : List Category} {rules : List Rule}
    (hload : (loadSources files config.dataDirectory config.sources).outcome = .ok sources)
    (hbuild : (buildRules (Candidates.collect (config.contributions sources))
      config.precedence).outcome = .ok (categories, rules)) :
    (generate files config).outcome =
      .ok ⟨config.grammar rules, categories.map Category.summary, rules.length⟩ := by
  rw [outcome_generate_of_load hload, hbuild]
  rfl

/-- **The rules of a generated grammar.**  If all sources load, and the order repeats no name and ranks
all categories that are fed, then each name of the order owns the terms of which it is the first to
have them routed to it, and unless one of their rules is too large there is a grammar: its rules are
the structural ones, one rule for each name that owns a term, in the order's sequence and with the
terms in increasing order, and the two last ones. -/
theorem generate_rules {files : FileReader} {config : Config}
    (hload : ∀ spec ∈ config.sources, ∃ s, Source.load files config.dataDirectory spec = .ok s)
    (hnodup : config.precedence.names.Nodup)
    (hsources : ∀ spec ∈ config.sources, ∀ c ∈ spec.categories, c ∈ config.precedence.names)
    (hextra : ∀ e ∈ config.extraTerms, e.category ∈ config.precedence.names) :
    ∃ owned : String → List String,
      (∀ c, (owned c).Pairwise (· < ·) ∧ ∀ t, t ∈ owned c ↔
        IsFirst config.precedence.names (fun n => config.Routes files n t) c) ∧
      ((∀ c ∈ config.precedence.names, owned c ≠ [] →
          Pattern.fitsLimit (alternation (owned c)) = true) →
        ∃ result, (generate files config).outcome = .ok result ∧ result.grammar.patterns =
          [baseRule, commentRule, bracketRule, stringRule] ++
            (config.precedence.names.filter (fun c => !(owned c).isEmpty)).map
              (fun c => Rule.named c (alternation (owned c))) ++
            [numericRule, fallbackRule]) := by
  obtain ⟨sources, houtcome, hloaded⟩ := outcome_loadSources hload
  refine ⟨config.precedence.owned (Candidates.collect (config.contributions sources)), ?_, ?_⟩
  · intro c
    refine ⟨Precedence.pairwise_owned c, fun t => ?_⟩
    rw [Precedence.mem_owned_iff]
    exact IsFirst.congr (fun n => (routes_iff hloaded).symm)
  · intro hfits
    have hranked : ∀ n ∈ (Candidates.collect (config.contributions sources)).names,
        n ∈ config.precedence.names := by
      intro n hn
      rcases fed_of_mem_names hloaded hn with ⟨spec, hspec, hc⟩ | ⟨e, he, rfl⟩
      · exact hsources spec hspec n hc
      · exact hextra e he
    have hresolve := resolve_eq_ok_iff.mpr ⟨⟨hnodup, hranked⟩, rfl⟩
    have hbuild := outcome_buildRules_eq_ok_iff.mpr
      ⟨hresolve, firstTooLarge?_eq_none hresolve hfits, rfl⟩
    refine ⟨_, outcome_generate houtcome hbuild, ?_⟩
    show ruleList _ = _
    rw [ruleList, map_rule_owning hresolve]
    rfl

/-- The texts of two files. -/
def levelFiles : FileReader := fun path =>
  if path = "data/level.txt" then .ok "10\n1000\n"
  else if path = "data/codes.json" then .ok "\x7b\"7_1\": [\"~8\", \"8\", \"10\", \"9\"]\x7d"
  else .error .notFound

/-- A list and a mapping whose members are routed by hand too. -/
def levels : Config where
  name := "Levels"
  scopeName := "source.levels"
  schema := none
  dataDirectory := .folder "data"
  sources := [⟨"level.txt", .list⟩, ⟨"codes.json", .mapping "code" "value"⟩]
  extraTerms := [⟨"value", ["10"]⟩]
  precedence := ⟨["code", "level", "value"]⟩

/-- What is loaded from the two files. -/
def levelSources : List Source :=
  [.list "level" ["10", "1000"], .mapping "code" "value" [⟨"7_1", ["~8", "8", "10", "9"]⟩]]

theorem load_levels : levels.sources.map (Source.load levelFiles levels.dataDirectory) =
    levelSources.map .ok := by
  have hread : Mapping.read "\x7b\"7_1\": [\"~8\", \"8\", \"10\", \"9\"]\x7d" =
      .ok [⟨"7_1", ["~8", "8", "10", "9"]⟩] := eq_ok_of_toOption (by decide +kernel)
  have hmapping : Source.load levelFiles levels.dataDirectory
      ⟨"codes.json", .mapping "code" "value"⟩ =
        .ok (.mapping "code" "value" [⟨"7_1", ["~8", "8", "10", "9"]⟩]) :=
    Source.load_eq_ok_iff.mpr ⟨_, rfl, .inr ⟨_, _, _, rfl, hread, rfl⟩⟩
  show [Source.load levelFiles levels.dataDirectory ⟨"level.txt", .list⟩,
    Source.load levelFiles levels.dataDirectory ⟨"codes.json", .mapping "code" "value"⟩] = _
  rw [hmapping]
  rfl

/-- What is gathered from the two files and by hand. -/
def levelCands : Candidates := .collect (levels.contributions levelSources)

/-- The mark on `8` keeps it from the members. -/
theorem mem_terms_levelCands (t : String) :
    (t ∈ levelCands.terms "code" ↔ t = "7_1" ∨ t = "8") ∧
      (t ∈ levelCands.terms "level" ↔ t = "10" ∨ t = "1000") ∧
      (t ∈ levelCands.terms "value" ↔ t = "9" ∨ t = "10") := by
  have hlower : lower "10" = "10" ∧ lower "1000" = "1000" := by decide +kernel
  have hvalues : Term.normalize "~8" = ⟨"8", .keyName⟩ ∧
      Term.normalize "8" = ⟨"8", .memberValue⟩ ∧ Term.normalize "10" = ⟨"10", .memberValue⟩ ∧
      Term.normalize "9" = ⟨"9", .memberValue⟩ := by decide +kernel
  have hkey : (Term.normalize "7_1").text = "7_1" := by decide +kernel
  refine ⟨?_, ?_, ?_⟩
  · show t ∈ ∅ ∪ (MappingTerms.ofEntries [⟨"7_1", ["~8", "8", "10", "9"]⟩]).keys ↔ _
    simp [MappingTerms.mem_keys_ofEntries, hkey, hvalues, eq_comm]
  · show t ∈ ∅ ∪ TermSet.ofList (["10", "1000"].map lower) ↔ _
    simp [hlower]
  · show t ∈ (∅ ∪ (MappingTerms.ofEntries [⟨"7_1", ["~8", "8", "10", "9"]⟩]).members) ∪
      TermSet.ofList (["10"].map lower) ↔ _
    have hmembers : t ∈ (MappingTerms.ofEntries [⟨"7_1", ["~8", "8", "10", "9"]⟩]).members ↔
        t ∈ ["8", "10", "9"] ∧ t ∉ ["8"] := by
      simp [MappingTerms.mem_members_ofEntries, hvalues, eq_comm]
    have hextra : ["10"].map lower = ["10"] := by simp [hlower]
    rw [TermSet.mem_union, TermSet.mem_union, hmembers, hextra, TermSet.mem_ofList]
    grind [TermSet.not_mem_empty]

/-- `10` belongs to the category that is ranked above the one it is picked for. -/
theorem generate_rules_levels : ∃ result, (generate levelFiles levels).outcome = .ok result ∧
    result.grammar.patterns = [baseRule, commentRule, bracketRule, stringRule] ++
      [.named "code" (alternation ["7_1", "8"]), .named "level" (alternation ["10", "1000"]),
        .named "value" (alternation ["9"])] ++ [numericRule, fallbackRule] := by
  have hload : ∀ spec ∈ levels.sources,
      ∃ s, Source.load levelFiles levels.dataDirectory spec = .ok s := by
    intro spec hspec
    have hmem := List.mem_map_of_mem (f := Source.load levelFiles levels.dataDirectory) hspec
    rw [load_levels] at hmem
    obtain ⟨s, -, hs⟩ := List.mem_map.mp hmem
    exact ⟨s, hs.symm⟩
  obtain ⟨owned, howned, hrules⟩ := generate_rules hload (by decide) (by decide) (by decide)
  have hnames : levels.precedence.names = ["code", "level", "value"] := rfl
  have hfirst : ∀ c t, t ∈ owned c ↔
      IsFirst ["code", "level", "value"] (fun n => t ∈ levelCands.terms n) c := by
    intro c t
    rw [(howned c).2 t, hnames]
    exact IsFirst.congr (fun n => routes_iff (loadedFrom_of_map_eq load_levels))
  have hcode : owned "code" = ["7_1", "8"] := by
    refine eq_of_pairwise_lt (howned _).1 (by decide) (fun t => ?_)
    obtain ⟨hcode, -, -⟩ := mem_terms_levelCands t
    simp only [hfirst, IsFirst.cons_iff, IsFirst.not_nil, hcode, List.mem_cons, List.not_mem_nil]
    grind
  have hlevel : owned "level" = ["10", "1000"] := by
    refine eq_of_pairwise_lt (howned _).1 (by decide) (fun t => ?_)
    obtain ⟨hcode, hlevel, -⟩ := mem_terms_levelCands t
    simp only [hfirst, IsFirst.cons_iff, IsFirst.not_nil, hcode, hlevel, List.mem_cons,
      List.not_mem_nil]
    grind
  have hvalue : owned "value" = ["9"] := by
    refine eq_of_pairwise_lt (howned _).1 (by decide) (fun t => ?_)
    obtain ⟨hcode, hlevel, hvalue⟩ := mem_terms_levelCands t
    simp only [hfirst, IsFirst.cons_iff, IsFirst.not_nil, hcode, hlevel, hvalue, List.mem_cons,
      List.not_mem_nil]
    grind
  obtain ⟨result, hok, hpatterns⟩ := hrules (by
    intro c hc _
    simp only [hnames, List.mem_cons, List.not_mem_nil, or_false] at hc
    rcases hc with rfl | rfl | rfl
    · rw [hcode]
      decide +kernel
    · rw [hlevel]
      decide +kernel
    · rw [hvalue]
      decide +kernel)
  refine ⟨result, hok, ?_⟩
  rw [hpatterns, hnames]
  simp [hcode, hlevel, hvalue]

end KeywordGrammar
