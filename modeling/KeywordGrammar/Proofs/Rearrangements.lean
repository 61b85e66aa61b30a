/-
# Order and repetition do not matter

What is gathered from a sequence of contributions depends on which there are, and not on their order
or on how often one of them comes.  The same holds inside of a contribution: of a list it matters which
lines it has, and of a mapping which keys and which values it has, whatever entries the values stand
in.  So two sequences amount to the same as soon as each contribution of the one has a counterpart in
the other (`Rearranged`).

The exclusion of marked values is what could break this, since it looks beyond a single value.  But it
asks for a mark anywhere in the source (`marks_iff`), and not for one that was seen before.
-/
import KeywordGrammar.Proofs.GeneratedRules

namespace KeywordGrammar

open Unicode

/-! ## 1. Changes of order and repetition -/

/-- Whether two lists have the same members, in any order and any number of times. -/
def SameMembers {α : Type} (l m : List α) : Prop := ∀ a, a ∈ l ↔ a ∈ m

/-- Sources that differ in order and repetition only: a list in that of its lines, a mapping in that of
its keys and in that of the values of all its entries taken together. -/
inductive Source.Rearranged : Source → Source → Prop where
  | list {c : String} {lines lines' : List String} :
      SameMembers lines lines' → Rearranged (.list c lines) (.list c lines')
  | mapping {k m : String} {entries entries' : List Entry} :
      SameMembers (entries.map Entry.key) (entries'.map Entry.key) →
        SameMembers (entries.flatMap Entry.values) (entries'.flatMap Entry.values) →
          Rearranged (.mapping k m entries) (.mapping k m entries')

/-- Contributions that differ in order and repetition only. -/
inductive Contribution.Rearranged : Contribution → Contribution → Prop where
  | source {s s' : Source} : s.Rearranged s' → Rearranged (.source s) (.source s')
  | extra {c : String} {terms terms' : List String} :
      SameMembers terms terms' → Rearranged (.extra c terms) (.extra c terms')

/-- Sequences of contributions that differ in order and repetition only, on the whole and inside of the
contributions: each contribution of the one has a counterpart in the other. -/
structure Rearranged (steps steps' : List Contribution) : Prop where
  forth : ∀ s ∈ steps, ∃ s' ∈ steps', s.Rearranged s'
  back : ∀ s' ∈ steps', ∃ s ∈ steps, s.Rearranged s'

/-! ## 2. The changes one by one -/

theorem SameMembers.symm {α : Type} {l m : List α} (h : SameMembers l m) : SameMembers m l :=
  fun a => (h a).symm

theorem SameMembers.trans {α : Type} {l m n : List α} (h : SameMembers l m)
    (h' : SameMembers m n) : SameMembers l n :=
  fun a => (h a).trans (h' a)

namespace Source.Rearranged

variable {k m : String} {entries entries' : List Entry}

theorem symm {s s' : Source} (h : s.Rearranged s') : s'.Rearranged s := by
  cases h with
  | list hlines => exact .list hlines.symm
  | mapping hkeys hvalues => exact .mapping hkeys.symm hvalues.symm

theorem trans {s s' s'' : Source} (h : s.Rearranged s') (h' : s'.Rearranged s'') :
    s.Rearranged s'' := by
  cases h with
  | list hlines =>
    cases h' with
    | list hlines' => exact .list (hlines.trans hlines')
  | mapping hkeys hvalues =>
    cases h' with
    | mapping hkeys' hvalues' => exact .mapping (hkeys.trans hkeys') (hvalues.trans hvalues')

/-- The entries of a mapping may come in another order, each any number of times. -/
theorem of_entries (h : SameMembers entries entries') :
    Rearranged (.mapping k m entries) (.mapping k m entries') := by
  constructor
  · intro key
    simp only [List.mem_map, h _]
  · intro v
    simp only [List.mem_flatMap, h _]

theorem refl (s : Source) : s.Rearranged s := by
  cases s with
  | list c lines => exact .list (fun _ => Iff.rfl)
  | mapping k m entries => exact of_entries (fun _ => Iff.rfl)

/-- A value may move from one entry to another. -/
theorem of_moved (above between below : List Entry) (a b v : String) (vs ws : List String) :
    Rearranged (.mapping k m (above ++ ⟨a, v :: vs⟩ :: between ++ ⟨b, ws⟩ :: below))
      (.mapping k m (above ++ ⟨a, vs⟩ :: between ++ ⟨b, v :: ws⟩ :: below)) := by
  constructor
  · intro key
    simp
  · intro u
    simp only [List.flatMap_append, List.flatMap_cons, List.mem_append, List.mem_cons]
    tauto

end Source.Rearranged

namespace Contribution.Rearranged

theorem refl (s : Contribution) : s.Rearranged s := by
  cases s with
  | source s => exact .source (.refl s)
  | extra c terms => exact .extra (fun _ => Iff.rfl)

theorem symm {s s' : Contribution} (h : s.Rearranged s') : s'.Rearranged s := by
  cases h with
  | source hs => exact .source hs.symm
  | extra hterms => exact .extra hterms.symm

theorem trans {s s' s'' : Contribution} (h : s.Rearranged s') (h' : s'.Rearranged s'') :
    s.Rearranged s'' := by
  cases h with
  | source hs =>
    cases h' with
    | source hs' => exact .source (hs.trans hs')
  | extra hterms =>
    cases h' with
    | extra hterms' => exact .extra (hterms.trans hterms')

end Contribution.Rearranged

namespace Rearranged

variable {steps steps' steps'' : List Contribution}

theorem symm (h : Rearranged steps steps') : Rearranged steps' steps := by
  constructor
  · intro s hs
    obtain ⟨s', hs', hrel⟩ := h.back s hs
    exact ⟨s', hs', hrel.symm⟩
  · intro s' hs'
    obtain ⟨s, hs, hrel⟩ := h.forth s' hs'
    exact ⟨s, hs, hrel.symm⟩

theorem trans (h : Rearranged steps steps') (h' : Rearranged steps' steps'') :
    Rearranged steps steps'' := by
  constructor
  · intro s hs
    obtain ⟨s', hs', hrel⟩ := h.forth s hs
    obtain ⟨s'', hs'', hrel'⟩ := h'.forth s' hs'
    exact ⟨s'', hs'', hrel.trans hrel'⟩
  · intro s'' hs''
    obtain ⟨s', hs', hrel'⟩ := h'.back s'' hs''
    obtain ⟨s, hs, hrel⟩ := h.back s' hs'
    exact ⟨s, hs, hrel.trans hrel'⟩

/-- The contributions may come in another order, each any number of times. -/
theorem of_sameMembers (h : SameMembers steps steps') : Rearranged steps steps' := by
  constructor
  · intro s hs
    exact ⟨s, (h s).mp hs, .refl s⟩
  · intro s hs
    exact ⟨s, (h s).mpr hs, .refl s⟩

/-- Where one contribution is rearranged, each has a counterpart still. -/
theorem exists_of_mem_within {s s' : Contribution} (h : s.Rearranged s')
    (above below : List Contribution) :
    ∀ x ∈ above ++ s :: below, ∃ y ∈ above ++ s' :: below, x.Rearranged y := by
  intro x hx
  rcases List.mem_append.mp hx with habove | hx
  · exact ⟨x, List.mem_append_left _ habove, .refl x⟩
  · rcases List.mem_cons.mp hx with rfl | hbelow
    · exact ⟨s', List.mem_append_right _ List.mem_cons_self, h⟩
    · exact ⟨x, List.mem_append_right _ (List.mem_cons_of_mem _ hbelow), .refl x⟩

/-- A contribution may be rearranged where it stands. -/
theorem within {s s' : Contribution} (h : s.Rearranged s') (above below : List Contribution) :
    Rearranged (above ++ s :: below) (above ++ s' :: below) := by
  constructor
  · exact exists_of_mem_within h above below
  · intro x hx
    obtain ⟨y, hy, hrel⟩ := exists_of_mem_within h.symm above below x hx
    exact ⟨y, hy, hrel.symm⟩

end Rearranged

/-! ## 3. What rearranged contributions route -/

/-- A mark counts wherever it stands in the source. -/
theorem marks_iff {entries : List Entry} {t : String} : Marks entries t ↔
    ∃ v ∈ entries.flatMap Entry.values, Term.isMarked v = true ∧ lower (Term.withoutMark v) = t := by
  simp only [Marks, List.mem_flatMap]
  constructor
  · rintro ⟨e, he, v, hv, h⟩
    exact ⟨v, ⟨e, he, hv⟩, h⟩
  · rintro ⟨v, ⟨e, he, hv⟩, h⟩
    exact ⟨e, he, v, hv, h⟩

theorem Source.Rearranged.routes {s s' : Source} (h : s.Rearranged s') {c t : String}
    (hroutes : s.Routes c t) : s'.Routes c t := by
  cases h with
  | list hlines =>
    cases hroutes with
    | line hraw => exact .line ((hlines _).mp hraw)
  | @mapping k m entries entries' hkeys hvalues =>
    have hmarks : ∀ t, Marks entries t ↔ Marks entries' t := by
      intro t
      simp only [marks_iff, hvalues _]
    cases hroutes with
    | key he =>
      obtain ⟨e', he', hkey⟩ := List.mem_map.mp ((hkeys _).mp (List.mem_map_of_mem he))
      rw [← hkey]
      exact .key he'
    | marked hm => exact .marked ((hmarks _).mp hm)
    | plain he hv hp hm =>
      obtain ⟨e', he', hv'⟩ :=
        List.mem_flatMap.mp ((hvalues _).mp (List.mem_flatMap_of_mem he hv))
      exact .plain he' hv' hp (fun hm' => hm ((hmarks _).mpr hm'))

theorem Contribution.Rearranged.routes {s s' : Contribution} (h : s.Rearranged s') {c t : String}
    (hroutes : s.Routes c t) : s'.Routes c t := by
  cases h with
  | source hs =>
    cases hroutes with
    | source hroutes => exact .source (hs.routes hroutes)
  | extra hterms =>
    cases hroutes with
    | extra hraw => exact .extra ((hterms _).mp hraw)

theorem Contribution.Rearranged.categories_eq {s s' : Contribution} (h : s.Rearranged s') :
    s.categories = s'.categories := by
  cases h with
  | source hs =>
    cases hs with
    | list _ => rfl
    | mapping _ _ => rfl
  | extra _ => rfl

namespace Rearranged

variable {steps steps' : List Contribution}

theorem names (h : Rearranged steps steps') {c : String} (hc : ∃ s ∈ steps, c ∈ s.categories) :
    ∃ s ∈ steps', c ∈ s.categories := by
  obtain ⟨s, hs, hc⟩ := hc
  obtain ⟨s', hs', hrel⟩ := h.forth s hs
  exact ⟨s', hs', hrel.categories_eq ▸ hc⟩

theorem routes (h : Rearranged steps steps') {c t : String} (ht : ∃ s ∈ steps, s.Routes c t) :
    ∃ s ∈ steps', s.Routes c t := by
  obtain ⟨s, hs, hroutes⟩ := ht
  obtain ⟨s', hs', hrel⟩ := h.forth s hs
  exact ⟨s', hs', hrel.routes hroutes⟩

end Rearranged

/-! ## 4. What is gathered -/

namespace Dictionary

variable {α : Type}

theorem mem_names_iff {d : Dictionary α} {n : String} : n ∈ d.names ↔ ∃ v, d.get? n = some v := by
  simp [names, ← mem_entries_iff]

/-- Dictionaries with the same value under each name are the same. -/
theorem ext_get? {d e : Dictionary α} (h : ∀ n, d.get? n = e.get? n) : d = e := by
  have hnodup : ∀ d : Dictionary α, d.entries.Nodup := by
    intro d
    refine List.Nodup.of_map Prod.fst (d.increasing.imp (fun hlt heq => ?_))
    exact String.lt_irrefl _ (heq ▸ hlt)
  refine eq_of_perm ((List.perm_ext_iff_of_nodup (hnodup d) (hnodup e)).mpr ?_)
  rintro ⟨n, v⟩
  rw [mem_entries_iff, mem_entries_iff, h]

end Dictionary

namespace Candidates

/-- Candidates with the same categories and the same terms for each are the same. -/
theorem ext_terms {cands cands' : Candidates} (hnames : ∀ c, c ∈ cands.names ↔ c ∈ cands'.names)
    (hterms : ∀ c t, t ∈ cands.terms c ↔ t ∈ cands'.terms c) : cands = cands' := by
  refine Dictionary.ext_get? (fun c => ?_)
  have hnames := hnames c
  have hterms : cands.terms c = cands'.terms c := TermSet.ext (hterms c)
  rw [Dictionary.mem_names_iff, Dictionary.mem_names_iff] at hnames
  unfold terms at hterms
  cases hget : cands.get? c with
  | none =>
    cases hget' : cands'.get? c with
    | none => rfl
    | some s' => simp [hget, hget'] at hnames
  | some s =>
    cases hget' : cands'.get? c with
    | none => simp [hget, hget'] at hnames
    | some s' =>
      rw [hget, hget'] at hterms
      exact congrArg some hterms

/-- **What is gathered does not depend on order and repetition.** -/
theorem collect_eq_of_rearranged {steps steps' : List Contribution} (h : Rearranged steps steps') :
    collect steps = collect steps' := by
  have hexact := exact_collect steps
  have hexact' := exact_collect steps'
  refine ext_terms (fun c => ?_) (fun c t => ?_)
  · rw [hexact.names, hexact'.names]
    exact ⟨h.names, h.symm.names⟩
  · rw [hexact.terms, hexact'.terms]
    exact ⟨h.routes, h.symm.routes⟩

end Candidates

/-! ## 5. What comes of it -/

/-- Configurations with the same identity and the same order, wherever their terms come from. -/
structure Config.SameIdentity (config config' : Config) : Prop where
  name : config.name = config'.name
  scopeName : config.scopeName = config'.scopeName
  schema : config.schema = config'.schema
  precedence : config.precedence = config'.precedence

theorem Config.SameIdentity.grammar {config config' : Config} (h : config.SameIdentity config')
    (rules : List Rule) : config.grammar rules = config'.grammar rules := by
  simp only [Config.grammar, h.name, h.scopeName, h.schema]

/-- **Order and repetition do not matter.**  Sequences of contributions that differ in nothing else
gather the same candidates, so the same rules are built from them under every order.  And if they are
what two configurations with the same identity load and pick by hand, then both runs end alike, with
the same document if there is one. -/
theorem unchanged_of_rearranged {steps steps' : List Contribution} (h : Rearranged steps steps') :
    Candidates.collect steps = Candidates.collect steps' ∧
      (∀ order, buildRules (.collect steps) order = buildRules (.collect steps') order) ∧
      ∀ (files files' : FileReader) (config config' : Config) (sources sources' : List Source),
        config.SameIdentity config' →
        (loadSources files config.dataDirectory config.sources).outcome = .ok sources →
        (loadSources files' config'.dataDirectory config'.sources).outcome = .ok sources' →
        config.contributions sources = steps → config'.contributions sources' = steps' →
        (generate files config).outcome = (generate files' config').outcome ∧
          (generate files config).outcome.map (fun result => result.grammar.document) =
            (generate files' config').outcome.map (fun result => result.grammar.document) := by
  have hcollect := Candidates.collect_eq_of_rearranged h
  refine ⟨hcollect, fun order => by rw [hcollect], ?_⟩
  intro files files' config config' sources sources' hidentity hload hload' hsteps hsteps'
  have houtcome : (generate files config).outcome = (generate files' config').outcome := by
    rw [outcome_generate_of_load hload, outcome_generate_of_load hload', hsteps, hsteps', hcollect,
      hidentity.precedence]
    simp only [hidentity.grammar]
  exact ⟨houtcome, by rw [houtcome]⟩

/-- A mapping with a mark in its first entry. -/
def markedCodes : String := "\x7b\"7_1\": [\"~8\", \"8\"], \"7_2\": [\"9\"]\x7d"

/-- The same keys and values, with the mark in the other entry. -/
def movedCodes : String := "\x7b\"7_2\": [\"~8\", \"9\"], \"7_1\": [\"8\"]\x7d"

theorem read_markedCodes :
    Mapping.read markedCodes = .ok [⟨"7_1", ["~8", "8"]⟩, ⟨"7_2", ["9"]⟩] :=
  eq_ok_of_toOption (by decide +kernel)

theorem read_movedCodes :
    Mapping.read movedCodes = .ok [⟨"7_1", ["8"]⟩, ⟨"7_2", ["~8", "9"]⟩] :=
  eq_ok_of_toOption (by decide +kernel)

/-- The texts of files in two directories. -/
def scatteredFiles : FileReader := fun path =>
  if path = "data/level.txt" then .ok "10\n1000\n"
  else if path = "data/codes.json" then .ok markedCodes
  else if path = "more/level.txt" then .ok "1000\n10\n1000\n"
  else if path = "more/codes.json" then .ok movedCodes
  else .error .notFound

/-- The levels with sources from another directory, in another order, and some things twice. -/
def scatteredLevels : Config := { levels with
  dataDirectory := .folder "more"
  sources := [⟨"codes.json", .mapping "code" "value"⟩, ⟨"level.txt", .list⟩,
    ⟨"codes.json", .mapping "code" "value"⟩]
  extraTerms := [⟨"value", ["10"]⟩, ⟨"value", ["10"]⟩] }

/-- The list and the mapping of the first directory. -/
def codeSources : List Source :=
  [.list "level" ["10", "1000"], .mapping "code" "value" [⟨"7_1", ["~8", "8"]⟩, ⟨"7_2", ["9"]⟩]]

/-- The mapping of the other directory. -/
def movedSource : Source := .mapping "code" "value" [⟨"7_1", ["8"]⟩, ⟨"7_2", ["~8", "9"]⟩]

/-- What comes from the other directory is what comes from the first with a line twice, a mark moved, a
source twice and an extra term twice. -/
theorem rearranged_scattered : Rearranged (levels.contributions codeSources)
    (scatteredLevels.contributions
      [movedSource, .list "level" ["1000", "10", "1000"], movedSource]) := by
  have hlines : SameMembers ["10", "1000"] ["1000", "10", "1000"] := by
    intro raw
    simp only [List.mem_cons, List.not_mem_nil, or_false]
    tauto
  have hlist : Rearranged (levels.contributions codeSources)
      (levels.contributions [.list "level" ["1000", "10", "1000"],
        .mapping "code" "value" [⟨"7_1", ["~8", "8"]⟩, ⟨"7_2", ["9"]⟩]]) :=
    .within (.source (.list hlines)) [] _
  have hmapping : Rearranged (levels.contributions [.list "level" ["1000", "10", "1000"],
        .mapping "code" "value" [⟨"7_1", ["~8", "8"]⟩, ⟨"7_2", ["9"]⟩]])
      (levels.contributions [.list "level" ["1000", "10", "1000"], movedSource]) :=
    .within (.source (.of_moved [] [] [] "7_1" "7_2" "~8" ["8"] ["9"])) [_] _
  refine (hlist.trans hmapping).trans (.of_sameMembers (fun s => ?_))
  simp only [Config.contributions, levels, scatteredLevels, List.map_cons, List.map_nil,
    List.cons_append, List.nil_append, List.mem_cons, List.not_mem_nil, or_false]
  tauto

/-- The mark excludes `8` wherever it stands, so both runs end alike. -/
theorem unchanged_of_rearranged_scattered :
    (loadSources scatteredFiles levels.dataDirectory levels.sources).outcome = .ok codeSources ∧
      (loadSources scatteredFiles scatteredLevels.dataDirectory scatteredLevels.sources).outcome =
        .ok [movedSource, .list "level" ["1000", "10", "1000"], movedSource] ∧
      (generate scatteredFiles levels).outcome = (generate scatteredFiles scatteredLevels).outcome := by
  have hcodes : Source.load scatteredFiles levels.dataDirectory
      ⟨"codes.json", .mapping "code" "value"⟩ = .ok (.mapping "code" "value"
        [⟨"7_1", ["~8", "8"]⟩, ⟨"7_2", ["9"]⟩]) :=
    Source.load_eq_ok_iff.mpr ⟨markedCodes, rfl, .inr ⟨_, _, _, rfl, read_markedCodes, rfl⟩⟩
  have hmoved : Source.load scatteredFiles scatteredLevels.dataDirectory
      ⟨"codes.json", .mapping "code" "value"⟩ = .ok movedSource :=
    Source.load_eq_ok_iff.mpr ⟨movedCodes, rfl, .inr ⟨_, _, _, rfl, read_movedCodes, rfl⟩⟩
  have hload : (loadSources scatteredFiles levels.dataDirectory levels.sources).outcome =
      .ok codeSources := by
    refine outcome_loadSources_of_map_eq ?_
    show [_, Source.load scatteredFiles levels.dataDirectory _] = _
    rw [hcodes]
    rfl
  have hload' : (loadSources scatteredFiles scatteredLevels.dataDirectory
      scatteredLevels.sources).outcome =
        .ok [movedSource, .list "level" ["1000", "10", "1000"], movedSource] := by
    refine outcome_loadSources_of_map_eq ?_
    show [Source.load scatteredFiles scatteredLevels.dataDirectory _, _, _] = _
    rw [hmoved]
    rfl
  obtain ⟨-, -, hruns⟩ := unchanged_of_rearranged rearranged_scattered
  exact ⟨hload, hload', (hruns _ _ levels scatteredLevels _ _ ⟨rfl, rfl, rfl, rfl⟩ hload hload' rfl rfl).1⟩

end KeywordGrammar
