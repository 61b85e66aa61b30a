/-
# Mappings that repeat a key

A text may write several members under one key.  They are not merged: the one that stands last is the
entry of the key, and the values of the others are dropped without a word.  What is written there is
lost unless it is written once more where it counts (`Keeps.all_iff`).

Nothing else is lost.  A key always has an entry; what the entries spell is routed to a category by any
run that reads the file, and some category owns it, so with an order that ranks what the sources feed it
is a branch of exactly one rule (`load_keeps`).
-/
import KeywordGrammar.Proofs.Mappings
import KeywordGrammar.Proofs.PopulationFiles
import KeywordGrammar.Proofs.Spellings
import KeywordGrammar.Proofs.Stability

namespace KeywordGrammar

open Unicode

/-! ## 1. The last of its name -/

/-- Whether a named value stands in a list, and the name does not come again behind it. -/
def StandsLast {α : Type} (l : List (String × α)) (e : String × α) : Prop :=
  ∃ before after, l = before ++ e :: after ∧ e.1 ∉ after.map Prod.fst

/-- Whether a named value stands in a list, and the name comes again behind it. -/
def Overwritten {α : Type} (l : List (String × α)) (e : String × α) : Prop :=
  ∃ before after, l = before ++ e :: after ∧ e.1 ∈ after.map Prod.fst

section Named

variable {α : Type} {l : List (String × α)} {d e : String × α}

theorem exists_split_cons_iff {p : List (String × α) → Prop} :
    (∃ before after, d :: l = before ++ e :: after ∧ p after) ↔
      (d = e ∧ p l) ∨ ∃ before after, l = before ++ e :: after ∧ p after := by
  constructor
  · rintro ⟨before, after, heq, hp⟩
    cases before with
    | nil =>
      cases heq
      exact .inl ⟨rfl, hp⟩
    | cons b before =>
      cases heq
      exact .inr ⟨before, after, rfl, hp⟩
  · rintro (⟨rfl, hp⟩ | ⟨before, after, rfl, hp⟩)
    · exact ⟨[], l, rfl, hp⟩
    · exact ⟨d :: before, after, rfl, hp⟩

theorem standsLast_cons_iff :
    StandsLast (d :: l) e ↔ (d = e ∧ e.1 ∉ l.map Prod.fst) ∨ StandsLast l e :=
  exists_split_cons_iff

theorem overwritten_cons_iff :
    Overwritten (d :: l) e ↔ (d = e ∧ e.1 ∈ l.map Prod.fst) ∨ Overwritten l e :=
  exists_split_cons_iff

theorem not_standsLast_nil : ¬ StandsLast [] e := by
  rintro ⟨before, after, heq, -⟩
  simp at heq

theorem not_overwritten_nil : ¬ Overwritten [] e := by
  rintro ⟨before, after, heq, -⟩
  simp at heq

theorem standsLast_or_overwritten_iff : StandsLast l e ∨ Overwritten l e ↔ e ∈ l := by
  constructor
  · rintro (⟨before, after, rfl, -⟩ | ⟨before, after, rfl, -⟩)
    · exact List.mem_append_right _ List.mem_cons_self
    · exact List.mem_append_right _ List.mem_cons_self
  · intro h
    obtain ⟨before, after, rfl⟩ := List.append_of_mem h
    by_cases hlater : e.1 ∈ after.map Prod.fst
    · exact .inr ⟨before, after, rfl, hlater⟩
    · exact .inl ⟨before, after, rfl, hlater⟩

/-- Each name has one that stands last. -/
theorem exists_standsLast {n : String} (h : n ∈ l.map Prod.fst) : ∃ v, StandsLast l (n, v) := by
  induction l with
  | nil => cases h
  | cons d l ih =>
    by_cases hlater : n ∈ l.map Prod.fst
    · obtain ⟨v, hv⟩ := ih hlater
      exact ⟨v, standsLast_cons_iff.mpr (.inr hv)⟩
    · rw [List.map_cons, List.mem_cons] at h
      rcases h with rfl | h
      · exact ⟨d.2, standsLast_cons_iff.mpr (.inl ⟨rfl, hlater⟩)⟩
      · exact absurd h hlater

namespace Dictionary

/-- What is inserted later takes the place of what was there.  The induction is on what is still to be
inserted, so `d` is any dictionary. -/
theorem get?_foldl_insert {n : String} {v : α} {d : Dictionary α} :
    (l.foldl (fun d e => d.insert e.1 e.2) d).get? n = some v ↔
      StandsLast l (n, v) ∨ (n ∉ l.map Prod.fst ∧ d.get? n = some v) := by
  induction l generalizing d with
  | nil => simp [not_standsLast_nil]
  | cons e l ih =>
    rw [List.foldl_cons, ih, get?_insert, standsLast_cons_iff, List.map_cons, List.mem_cons]
    by_cases hn : n = e.1
    · subst hn
      have hpair : e = (e.1, v) ↔ e.2 = v := by simp [Prod.ext_iff]
      rw [if_pos rfl, Option.some.injEq, hpair]
      constructor
      · rintro (hlater | ⟨hnone, hv⟩)
        · exact .inl (.inr hlater)
        · exact .inl (.inl ⟨hv, hnone⟩)
      · rintro ((⟨hv, hnone⟩ | hlater) | ⟨hne, -⟩)
        · exact .inr ⟨hnone, hv⟩
        · exact .inl hlater
        · exact absurd (.inl rfl) hne
    · have hne : e ≠ (n, v) := by
        rintro rfl
        exact hn rfl
      simp [hn, hne]

/-- **The entries of a list are those that stand last under their names.** -/
theorem mem_entries_ofList {n : String} {v : α} :
    (n, v) ∈ (ofList l).entries ↔ StandsLast l (n, v) := by
  rw [mem_entries_iff, ofList, get?_foldl_insert]
  have hempty : (∅ : Dictionary α).get? n = none := rfl
  simp [hempty]

end Dictionary

end Named

/-! ## 2. What entries keep of a text -/

/-- Whether a raw term is a key or a value of some entries. -/
def Spells (entries : List Entry) (raw : String) : Prop := ∃ e ∈ entries, raw ∈ e.key :: e.values

instance (entries : List Entry) (raw : String) : Decidable (Spells entries raw) :=
  inferInstanceAs (Decidable (∃ e ∈ entries, raw ∈ e.key :: e.values))

/-- What some entries keep of the members of a text. -/
structure Keeps (meant : List (String × List String)) (entries : List Entry) : Prop where
  /-- An entry is a member that stands last under its key. -/
  entry_iff : ∀ key values, ⟨key, values⟩ ∈ entries ↔ StandsLast meant (key, values)
  /-- So each key has an entry. -/
  key : ∀ m ∈ meant, ∃ e ∈ entries, e.key = m.1
  /-- All that is written is kept iff each value of an overwritten member is written elsewhere too, as a
  key or in a member that stands last. -/
  all_iff : (∀ m ∈ meant, ∀ raw ∈ m.1 :: m.2, Spells entries raw) ↔
    ∀ m, Overwritten meant m → ∀ v ∈ m.2,
      v ∈ meant.map Prod.fst ∨ ∃ d, StandsLast meant d ∧ v ∈ d.2

section Entries

variable {meant : List (String × List String)} {entries : List Entry}

theorem exists_entry_of_entry_iff
    (h : ∀ key values, ⟨key, values⟩ ∈ entries ↔ StandsLast meant (key, values)) {n : String}
    (hn : n ∈ meant.map Prod.fst) : ∃ e ∈ entries, e.key = n := by
  obtain ⟨values, hlast⟩ := exists_standsLast hn
  exact ⟨_, (h n values).mpr hlast, rfl⟩

/-- What the last members spell is every key, and their own values. -/
theorem spells_iff_of_entry_iff
    (h : ∀ key values, ⟨key, values⟩ ∈ entries ↔ StandsLast meant (key, values)) {raw : String} :
    Spells entries raw ↔ raw ∈ meant.map Prod.fst ∨ ∃ d, StandsLast meant d ∧ raw ∈ d.2 := by
  constructor
  · rintro ⟨⟨key, values⟩, he, hraw⟩
    have hlast := (h key values).mp he
    rcases List.mem_cons.mp hraw with rfl | hvalue
    · exact .inl (List.mem_map_of_mem (standsLast_or_overwritten_iff.mp (.inl hlast)))
    · exact .inr ⟨_, hlast, hvalue⟩
  · rintro (hn | ⟨⟨key, values⟩, hlast, hvalue⟩)
    · obtain ⟨e, he, rfl⟩ := exists_entry_of_entry_iff h hn
      exact ⟨e, he, List.mem_cons_self⟩
    · exact ⟨_, (h key values).mpr hlast, List.mem_cons_of_mem _ hvalue⟩

theorem keeps_of_entry_iff
    (h : ∀ key values, ⟨key, values⟩ ∈ entries ↔ StandsLast meant (key, values)) :
    Keeps meant entries := by
  refine ⟨h, fun m hm => exists_entry_of_entry_iff h (List.mem_map_of_mem hm),
    fun hall m hover v hv => ?_, fun helsewhere m hm raw hraw => ?_⟩
  · have hm := standsLast_or_overwritten_iff.mp (.inr hover)
    exact (spells_iff_of_entry_iff h).mp (hall m hm v (List.mem_cons_of_mem _ hv))
  · refine (spells_iff_of_entry_iff h).mpr ?_
    rcases List.mem_cons.mp hraw with rfl | hvalue
    · exact .inl (List.mem_map_of_mem hm)
    · rcases standsLast_or_overwritten_iff.mpr hm with hlast | hover
      · exact .inr ⟨m, hlast, hvalue⟩
      · exact helsewhere m hover raw hvalue

end Entries

theorem Mapping.keeps_of_read {text : String} {meant : List (String × List String)}
    (h : Denotes text meant) : ∃ entries, read text = .ok entries ∧ Keeps meant entries := by
  refine ⟨_, read_eq_ok_iff.mpr ⟨meant, h, rfl⟩, keeps_of_entry_iff fun key values => ?_⟩
  rw [← Dictionary.mem_entries_ofList, List.mem_map]
  constructor
  · rintro ⟨e, he, heq⟩
    cases heq
    exact he
  · exact fun he => ⟨_, he, rfl⟩

/-! ## 3. What a run makes of the entries -/

/-- **What a loaded mapping spells is a branch of one rule.** -/
theorem exists_branch_of_spells {files : FileReader} {config : Config} {spec : SourceSpec}
    {k m : String} {entries : List Entry} (hspec : spec ∈ config.sources)
    (hload : Source.load files config.dataDirectory spec = .ok (.mapping k m entries))
    {g : Generation} (h : (generate files config).outcome = .ok g) :
    ∃ dynamic, g.grammar.patterns = [baseRule, commentRule, bracketRule, stringRule] ++ dynamic ++
        [numericRule, fallbackRule] ∧
      ∀ raw, Spells entries raw →
        ∃ r, dynamic.filter (fun r => r.hasBranch (Term.normalize raw).text) = [r] := by
  obtain ⟨-, cands, categories, hresolve, hroutes, hpatterns, -⟩ := exists_resolved_of_generate h
  refine ⟨(Category.owning categories).map Category.rule, hpatterns, ?_⟩
  rintro raw ⟨e, he, hraw⟩
  rw [Term.text_normalize]
  obtain ⟨c, hc⟩ := Contribution.exists_routes
    (Contribution.mem_spellings_mapping (k := k) (m := m) he hraw)
  have hroute := routes_of_source hspec hload (Contribution.routes_source_iff.mp hc)
  obtain ⟨owner, howner, howns⟩ := exists_mem_terms_of_resolve hresolve ((hroutes _ _).mp hroute)
  exact ⟨_, filter_hasBranch_of_resolve hresolve howner howns⟩

/-- **What loading keeps of a mapping, and what becomes of it.**  The texts that are loaded are those
whose members mean something.  Of several members under one key the last is the entry, so all that is
written is kept iff the values of the others are written elsewhere too.  With an order that ranks what
is fed, a run on the file fails only for a source that does not load or a rule that is too large; and
all that was kept is, normalized, a branch of exactly one rule of a category. -/
theorem load_keeps {files : FileReader} {dir : DataDirectory} {file k m text : String}
    (hread : dir.read files file = .ok text) :
    ((∃ s, Source.load files dir ⟨file, .mapping k m⟩ = .ok s) ↔
      ∃ meant, Mapping.Denotes text meant) ∧
    ∀ meant, Mapping.Denotes text meant →
      ∃ entries, Source.load files dir ⟨file, .mapping k m⟩ = .ok (.mapping k m entries) ∧
        Keeps meant entries ∧
        ∀ config : Config, config.dataDirectory = dir → ⟨file, .mapping k m⟩ ∈ config.sources →
          config.IsRanked →
          (∀ failure, (generate files config).outcome = .error failure →
            config.FailsToLoad files failure ∨ config.IsTooLarge files failure) ∧
          ∀ g, (generate files config).outcome = .ok g →
            ∃ dynamic, g.grammar.patterns = [baseRule, commentRule, bracketRule, stringRule] ++
                dynamic ++ [numericRule, fallbackRule] ∧
              ∀ raw, Spells entries raw →
                ∃ r, dynamic.filter (fun r => r.hasBranch (Term.normalize raw).text) = [r] := by
  constructor
  · rcases Mapping.load_eq_ok_or_error (k := k) (m := m) hread with
      ⟨hmeant, hok⟩ | ⟨hnot, fault, position, herror⟩
    · exact ⟨fun _ => hmeant, fun _ => hok⟩
    · simp [hnot, herror]
  · intro meant hmeant
    obtain ⟨entries, hentries, hkeeps⟩ := Mapping.keeps_of_read hmeant
    have hload : Source.load files dir ⟨file, .mapping k m⟩ = .ok (.mapping k m entries) := by
      rw [Mapping.load_eq hread, hentries]
    refine ⟨entries, hload, hkeeps, ?_⟩
    rintro config rfl hspec hranked
    exact ⟨fun failure h => (hranked.failure h).imp_right And.right,
      fun g h => exists_branch_of_spells hspec hload h⟩

/-- A configuration with one mapping and nothing else. -/
def skillConfig : Config where
  name := "Skills"
  scopeName := "source.skills"
  schema := none
  dataDirectory := .folder "data"
  sources := [⟨"skills.json", .mapping "key" "value"⟩]
  extraTerms := []
  precedence := ⟨["key", "value"]⟩

theorem isRanked_skillConfig : skillConfig.IsRanked := by
  refine ⟨by decide, ?_⟩
  rintro c (⟨spec, hspec, hc⟩ | ⟨e, he, -⟩)
  · rw [List.mem_singleton.mp hspec] at hc
    exact hc
  · cases he

/-- The file of the mapping, with a text. -/
def skillFile (text : String) : FileReader := fun path =>
  if path = "data/skills.json" then .ok text else .error .notFound

/-- What the two categories own of an entry with plain values. -/
def skillCategories (values : TermSet) : List Category :=
  [.ofTerms "key" ⟨["skill"], by decide⟩, .ofTerms "value" values]

/-- A file with one entry makes a grammar, if its values fit and none of them is the key. -/
theorem outcome_generate_skill {text : String} {values : List String} (terms : TermSet)
    (hread : Mapping.read text = .ok [⟨"Skill", values⟩])
    (hvalues : values.map Term.normalize = terms.toList.map (⟨·, .memberValue⟩))
    (hkey : "skill" ∉ terms)
    (hfits : ∀ kept ∈ [["skill"], terms.toList], (Pattern.Shape.wholeWord Pattern.letterShape
      (kept.map String.toList)).fits compiledSizeLimit = true) :
    ∃ g, (generate (skillFile text) skillConfig).outcome = .ok g ∧
      g.grammar.patterns = ruleList (skillCategories terms) := by
  have hfile : skillConfig.dataDirectory.read (skillFile text) "skills.json" = .ok text := rfl
  have hload : skillConfig.sources.map (Source.load (skillFile text) skillConfig.dataDirectory) =
      [Source.mapping "key" "value" [⟨"Skill", values⟩]].map .ok := by
    show [Source.load (skillFile text) skillConfig.dataDirectory
      ⟨"skills.json", .mapping "key" "value"⟩] = _
    rw [Mapping.load_eq hfile, hread]
    rfl
  have hkeys : [Entry.mk "Skill" values].map (fun e => (Term.normalize e.key).text) = ["skill"] := by
    have hskill : (Term.normalize "Skill").text = "skill" := by decide +kernel
    rw [List.map_singleton, hskill]
  have hterms : MappingTerms.ofEntries [⟨"Skill", values⟩] = ⟨⟨["skill"], by decide⟩, terms⟩ :=
    MappingTerms.ofEntries_of_plain hkeys (by simpa [MappingTerms.valuesOf] using hvalues)
  have hresolve := resolve_collect_mapping (k := "key") (m := "value") hterms (by decide)
    (fun t ht => List.mem_singleton.mp ht ▸ hkey)
  have hkept : (skillCategories terms).map (fun c => c.terms.toList) = [["skill"], terms.toList] :=
    rfl
  have hlarge := Category.firstTooLarge?_eq_none_of_shapes hkept hfits
  have hbuild := outcome_buildRules_eq_ok_iff.mpr ⟨hresolve, hlarge, rfl⟩
  exact ⟨_, outcome_generate (outcome_loadSources_of_map_eq hload) hbuild, rfl⟩

/-- A key twice, and what is written under it the first time is written once more. -/
def repeatedText : String :=
  "\x7b\"Skill\": [\"Easy\"]," ++
    "\"Skill\": \x7b\"values\": [\"Easy\", \x7b\"label\": \"Hard\"\x7d]\x7d\x7d"

/-- The dropped member takes nothing with it. -/
theorem load_keeps_repeated : ∃ entries,
    Source.load (skillFile repeatedText) (.folder "data") ⟨"skills.json", .mapping "key" "value"⟩ =
        .ok (.mapping "key" "value" entries) ∧
      (∀ raw ∈ ["Skill", "Easy", "Hard"], Spells entries raw) ∧
      ∃ g dynamic r, (generate (skillFile repeatedText) skillConfig).outcome = .ok g ∧
        g.grammar.patterns = [baseRule, commentRule, bracketRule, stringRule] ++ dynamic ++
          [numericRule, fallbackRule] ∧
        dynamic.filter (fun r => r.hasBranch "easy") = [r] := by
  have hmeant : Mapping.Denotes repeatedText [("Skill", ["Easy"]), ("Skill", ["Easy", "Hard"])] :=
    Mapping.readAll_reader_iff.mp (by decide +kernel)
  have hfile : (DataDirectory.folder "data").read (skillFile repeatedText) "skills.json" =
      .ok repeatedText := rfl
  obtain ⟨entries, hload, hkeeps, hruns⟩ :=
    (load_keeps (k := "key") (m := "value") hfile).2 _ hmeant
  have helsewhere : ∀ m, Overwritten [("Skill", ["Easy"]), ("Skill", ["Easy", "Hard"])] m →
      ∀ v ∈ m.2, v = "Easy" := by
    simp [overwritten_cons_iff, not_overwritten_nil]
  have hlast : StandsLast [("Skill", ["Easy"]), ("Skill", ["Easy", "Hard"])]
      ("Skill", ["Easy", "Hard"]) := by simp [standsLast_cons_iff]
  have hall := hkeeps.all_iff.mpr fun m hm v hv =>
    .inr ⟨_, hlast, helsewhere m hm v hv ▸ List.mem_cons_self⟩
  have hspells : ∀ raw ∈ ["Skill", "Easy", "Hard"], Spells entries raw :=
    hall ("Skill", ["Easy", "Hard"]) (.tail _ (.head _))
  have hread : Mapping.read repeatedText = .ok [⟨"Skill", ["Easy", "Hard"]⟩] :=
    eq_ok_of_toOption (by decide +kernel)
  have hterms : ["Easy", "Hard"].map Term.normalize = ["easy", "hard"].map (⟨·, .memberValue⟩) := by
    decide +kernel
  obtain ⟨g, hok, -⟩ := outcome_generate_skill ⟨["easy", "hard"], by decide⟩ hread hterms (by decide)
    (by decide +kernel)
  obtain ⟨-, hsucceeds⟩ := hruns skillConfig rfl (.head _) isRanked_skillConfig
  obtain ⟨dynamic, hpatterns, hbranch⟩ := hsucceeds g hok
  obtain ⟨r, hr⟩ := hbranch "Easy" (hspells "Easy" (by decide))
  have heasy : (Term.normalize "Easy").text = "easy" := by decide +kernel
  rw [heasy] at hr
  exact ⟨entries, hload, hspells, g, dynamic, r, hok, hpatterns, hr⟩

/-- A key twice, and nothing else says what is written under it the first time. -/
def overwrittenText : String :=
  "\x7b\"Skill\": [\"Easy\"], \"Skill\": \x7b\"values\": [\"Hard\"]\x7d\x7d"

/-- The value of the dropped member is neither in the entries nor in a rule. -/
theorem overwritten_value_is_lost :
    Mapping.Denotes overwrittenText [("Skill", ["Easy"]), ("Skill", ["Hard"])] ∧
      (∃ entries, Source.load (skillFile overwrittenText) (.folder "data")
          ⟨"skills.json", .mapping "key" "value"⟩ = .ok (.mapping "key" "value" entries) ∧
        ¬ Spells entries "Easy") ∧
      skillConfig.IsRanked ∧
      ∃ g dynamic, (generate (skillFile overwrittenText) skillConfig).outcome = .ok g ∧
        g.grammar.patterns = [baseRule, commentRule, bracketRule, stringRule] ++ dynamic ++
          [numericRule, fallbackRule] ∧
        ∀ r ∈ dynamic, r.hasBranch (Term.normalize "Easy").text = false := by
  have hmeant : Mapping.Denotes overwrittenText [("Skill", ["Easy"]), ("Skill", ["Hard"])] :=
    Mapping.readAll_reader_iff.mp (by decide +kernel)
  have hread : Mapping.read overwrittenText = .ok [⟨"Skill", ["Hard"]⟩] :=
    eq_ok_of_toOption (by decide +kernel)
  have hfile : (DataDirectory.folder "data").read (skillFile overwrittenText) "skills.json" =
      .ok overwrittenText := rfl
  have hload := Mapping.load_eq (k := "key") (m := "value") hfile
  rw [hread] at hload
  have hterms : ["Hard"].map Term.normalize = ["hard"].map (⟨·, .memberValue⟩) := by
    decide +kernel
  obtain ⟨g, hok, hpatterns⟩ := outcome_generate_skill ⟨["hard"], by decide⟩ hread hterms (by decide)
    (by decide +kernel)
  refine ⟨hmeant, ⟨_, hload, by decide⟩, isRanked_skillConfig, g, _, hok, hpatterns, fun r hr => ?_⟩
  obtain ⟨c, hc, rfl⟩ := List.mem_map.mp hr
  have hlost : ∀ c ∈ skillCategories ⟨["hard"], by decide⟩, (Term.normalize "Easy").text ∉ c.terms := by
    decide +kernel
  rw [Category.hasBranch_rule (Category.isEmpty_of_mem_owning hc)]
  exact decide_eq_false (hlost c (List.mem_of_mem_filter hc))

end KeywordGrammar
