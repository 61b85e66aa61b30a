/-
# How a run ends

A run can fail in three places: a source does not load, the order names a category twice, or the order
leaves out a category that something is routed to.  The places come in this sequence, and each reports
the first thing it meets; so a run has exactly one way to end, and it can be read off the files and the
configuration (`generate_ends`).  Patterns cannot be at fault, since what is written for a set of terms
can always be read; only the size of its automaton is left as an obstacle.

The categories are looked through in the order of the UTF-8 bytes of their names.  This is the order of
texts by their letters, as `lt_iff_bytes_lt` shows.
-/
import KeywordGrammar.Proofs.GeneratedRules
import Mathlib.Data.List.Lex

namespace KeywordGrammar

/-! ## 1. The order of bytes -/

/-- The bytes of a text. -/
def bytes (s : String) : List UInt8 := s.toUTF8.data.toList

theorem bytes_eq (s : String) : bytes s = s.toList.flatMap String.utf8EncodeChar := by
  rw [bytes, String.toUTF8, ← String.utf8Encode_toList, List.utf8Encode, List.data_toByteArray]

/-- Of two numbers in groups of six bits, the first group in which they differ decides. -/
theorem sixBits_lt {m n : Nat} (h : m < n) : m / 262144 < n / 262144 ∨
    m / 262144 = n / 262144 ∧ (m / 4096 % 64 < n / 4096 % 64 ∨
      m / 4096 % 64 = n / 4096 % 64 ∧ (m / 64 % 64 < n / 64 % 64 ∨
        m / 64 % 64 = n / 64 % 64 ∧ m % 64 < n % 64)) := by
  have hlast : m / 64 < n / 64 ∨ m / 64 = n / 64 ∧ m % 64 < n % 64 := by omega
  have hthird : m / 64 ≤ n / 64 → m / 4096 < n / 4096 ∨ m / 4096 = n / 4096 ∧
      m / 64 % 64 ≤ n / 64 % 64 := by omega
  have hsecond : m / 4096 ≤ n / 4096 → m / 262144 < n / 262144 ∨ m / 262144 = n / 262144 ∧
      m / 4096 % 64 ≤ n / 4096 % 64 := by omega
  omega

/-- The bytes of a smaller letter come first, whatever stands behind the letters. -/
theorem encode_append_lt {a b : Char} (h : a < b) (x y : List UInt8) :
    String.utf8EncodeChar a ++ x < String.utf8EncodeChar b ++ y := by
  have hlt : a.val.toNat < b.val.toNat := h
  have hb : b.val.toNat < 1114112 := by
    rcases b.valid with hlow | hhigh
    · exact Nat.lt_trans hlow (by decide)
    · exact hhigh.2
  rw [String.utf8EncodeChar.eq_1, String.utf8EncodeChar.eq_1]
  generalize a.val.toNat = m at *
  generalize b.val.toNat = n at *
  have hbits := sixBits_lt hlt
  -- one case for each pair of widths, of one to four bytes
  repeat' split
  all_goals
    simp (disch := omega) only [List.cons_append, List.nil_append, List.cons_lt_cons_iff,
      UInt8.lt_iff_toNat_lt, ← UInt8.toNat_inj, UInt8.toNat_ofNat', Nat.mod_eq_of_lt]
    omega

theorem bytes_lt_of_lt {s t : String} (h : s < t) : bytes s < bytes t := by
  rw [String.lt_iff] at h
  rw [bytes_eq, bytes_eq]
  generalize s.toList = l at *
  generalize t.toList = r at *
  induction l generalizing r with
  | nil =>
    cases r with
    | nil => exact absurd h (List.lt_irrefl [])
    | cons d r =>
      cases henc : String.utf8EncodeChar d with
      | nil => simp at henc
      | cons byte more =>
        rw [List.flatMap_nil, List.flatMap_cons, henc]
        exact List.nil_lt_cons _ _
  | cons c l ih =>
    cases r with
    | nil => exact absurd h (List.not_lt_nil _)
    | cons d r =>
      rw [List.flatMap_cons, List.flatMap_cons]
      rcases List.cons_lt_cons_iff.mp h with hcd | ⟨rfl, hlr⟩
      · exact encode_append_lt hcd _ _
      · exact List.lex_lt.mp (List.Lex.append_left _ (List.lex_lt.mpr (ih r hlr)) _)

/-- **Texts are ordered by their bytes.** -/
theorem lt_iff_bytes_lt {s t : String} : s < t ↔ bytes s < bytes t := by
  refine ⟨bytes_lt_of_lt, fun h => ?_⟩
  rcases Std.lt_trichotomy s t with hst | rfl | hts
  · exact hst
  · exact absurd h (List.lt_irrefl _)
  · exact absurd h (List.lt_asymm (bytes_lt_of_lt hts))

theorem bytes_le_of_not_lt {s t : String} (h : ¬ t < s) : bytes s ≤ bytes t :=
  List.not_lt.mp fun hlt => h (lt_iff_bytes_lt.mpr hlt)

/-! ## 2. What is wrong with an order -/

/-- Whether `name` is the first of some names that equals an earlier one. -/
def IsFirstRepeated (names : List String) (name : String) : Prop :=
  ∃ above below, names = above ++ name :: below ∧ above.Nodup ∧ name ∈ above

theorem exists_of_firstRepeated : ∀ {names seen : List String} {name : String},
    firstRepeated seen names = some name →
      ∃ above below, names = above ++ name :: below ∧ above.Nodup ∧ (∀ n ∈ above, n ∉ seen) ∧
        (name ∈ above ∨ name ∈ seen)
  | [], _, _, h => by cases h
  | n :: rest, seen, name, h => by
    rw [firstRepeated] at h
    split at h
    · rename_i hseen
      cases h
      exact ⟨[], rest, rfl, .nil, by simp, .inr hseen⟩
    · rename_i hnew
      obtain ⟨above, below, rfl, hnodup, habove, hname⟩ := exists_of_firstRepeated h
      have hn : n ∉ above := fun hin => habove n hin List.mem_cons_self
      refine ⟨n :: above, below, rfl, List.nodup_cons.mpr ⟨hn, hnodup⟩, ?_, ?_⟩
      · intro m hm
        rcases List.mem_cons.mp hm with rfl | hm
        · exact hnew
        · exact fun hin => habove m hm (List.mem_cons_of_mem _ hin)
      · rcases hname with hname | hname
        · exact .inl (List.mem_cons_of_mem _ hname)
        · rcases List.mem_cons.mp hname with rfl | hname
          · exact .inl List.mem_cons_self
          · exact .inr hname

section Faults

variable {cands : Candidates} {order : Precedence}

/-- An order that repeats a name is refused for the first such name, whatever it leaves out. -/
theorem resolve_of_not_nodup (h : ¬ order.names.Nodup) :
    ∃ name, IsFirstRepeated order.names name ∧ resolve cands order = .error (.repeated name) := by
  cases hrepeated : firstRepeated [] order.names with
  | none => exact absurd (firstRepeated_eq_none_iff.mp hrepeated).1 h
  | some name =>
    obtain ⟨above, below, heq, hnodup, -, hname⟩ := exists_of_firstRepeated hrepeated
    refine ⟨name, ⟨above, below, heq, hnodup, by simpa using hname⟩, ?_⟩
    simp only [resolve, Precedence.fault?, hrepeated]

/-- An order that leaves out a name is refused for the smallest such name. -/
theorem resolve_of_unlisted (hnodup : order.names.Nodup)
    (h : ∃ n ∈ cands.names, n ∉ order.names) :
    ∃ name, name ∈ cands.names ∧ name ∉ order.names ∧
      (∀ n ∈ cands.names, n ∉ order.names → bytes name ≤ bytes n) ∧
      resolve cands order = .error (.unlisted name) := by
  have hrepeated : firstRepeated [] order.names = none :=
    firstRepeated_eq_none_iff.mpr ⟨hnodup, by simp⟩
  cases hfind : cands.names.find? (fun c => decide (c ∉ order.names)) with
  | none =>
    obtain ⟨n, hn, hunlisted⟩ := h
    exact absurd (List.find?_eq_none.mp hfind n hn) (by simpa using hunlisted)
  | some name =>
    obtain ⟨hname, above, below, heq, habove⟩ := List.find?_eq_some_iff_append.mp hfind
    have hincreasing : (above ++ name :: below).Pairwise (· < ·) := heq ▸ cands.increasing
    have hbelow : ∀ n ∈ below, name < n :=
      (List.pairwise_cons.mp (List.pairwise_append.mp hincreasing).2.1).1
    refine ⟨name, heq ▸ by simp, by simpa using hname, fun n hn hunlisted => ?_, ?_⟩
    · rw [heq] at hn
      rcases List.mem_append.mp hn with hn | hn
      · exact absurd (habove n hn) (by simpa using hunlisted)
      · rcases List.mem_cons.mp hn with rfl | hn
        · exact List.le_refl _
        · exact bytes_le_of_not_lt (String.lt_asymm (hbelow n hn))
    · simp only [resolve, Precedence.fault?, hrepeated, hfind, Option.map_some]

end Faults

/-! ## 3. Sources that do not load -/

section Sources

variable {files : FileReader} {dir : DataDirectory}

/-- A source that does not load has a file that cannot be read or a mapping that is malformed. -/
theorem Source.cause_of_load {spec : SourceSpec} {failure : Failure}
    (h : Source.load files dir spec = .error failure) :
    (∃ cause, failure = .file (dir.join spec.file) cause) ∨
      ∃ cause position, failure = .json (dir.join spec.file) cause position := by
  unfold Source.load at h
  split at h
  · rename_i text _
    unfold Source.ofText at h
    split at h
    · cases h
    · split at h
      · cases h
      · cases h
        exact .inr ⟨_, _, rfl⟩
  · cases h
    exact .inl ⟨_, rfl⟩

/-- The first source that does not load ends the loading. -/
theorem outcome_loadSources_of_error {spec : SourceSpec} {below : List SourceSpec} {failure : Failure}
    (h : Source.load files dir spec = .error failure) : ∀ {above : List SourceSpec},
      (∀ s ∈ above, ∃ source, Source.load files dir s = .ok source) →
        (loadSources files dir (above ++ spec :: below)).outcome = .error failure
  | [], _ => by
    simp only [List.nil_append, loadSources, Traced.outcome_bind, Traced.ofExcept, h, Except.bind]
  | s :: above, habove => by
    obtain ⟨source, hsource⟩ := habove s List.mem_cons_self
    have ih : (loadSources files dir (above ++ spec :: below)).outcome = .error failure :=
      outcome_loadSources_of_error h (fun s hs => habove s (List.mem_cons_of_mem _ hs))
    simp only [List.cons_append, loadSources, Traced.outcome_bind, Traced.ofExcept, Traced.record,
      hsource, Except.bind, ih]

/-- If some source does not load, then there is a first one. -/
theorem exists_first_failing : ∀ {specs : List SourceSpec},
    (¬ ∀ spec ∈ specs, ∃ source, Source.load files dir spec = .ok source) →
      ∃ above spec below failure, specs = above ++ spec :: below ∧
        (∀ s ∈ above, ∃ source, Source.load files dir s = .ok source) ∧
        Source.load files dir spec = .error failure
  | [], h => absurd (by simp) h
  | spec :: specs, h => by
    cases hload : Source.load files dir spec with
    | error failure => exact ⟨[], spec, specs, failure, rfl, by simp, hload⟩
    | ok source =>
      have hrest : ¬ ∀ s ∈ specs, ∃ source, Source.load files dir s = .ok source := by
        intro hall
        refine h fun s hs => ?_
        rcases List.mem_cons.mp hs with rfl | hs
        · exact ⟨source, hload⟩
        · exact hall s hs
      obtain ⟨above, first, below, failure, rfl, habove, hfirst⟩ := exists_first_failing hrest
      refine ⟨spec :: above, first, below, failure, rfl, fun s hs => ?_, hfirst⟩
      rcases List.mem_cons.mp hs with rfl | hs
      · exact ⟨source, hload⟩
      · exact habove s hs

end Sources

/-! ## 4. Ends of a run -/

namespace Config

/-- Whether a source of the configuration loads. -/
def Loads (files : FileReader) (config : Config) (spec : SourceSpec) : Prop :=
  ∃ source, Source.load files config.dataDirectory spec = .ok source

/-- Whether a source or a list of extra terms feeds a category, be it with no term. -/
def Feeds (config : Config) (c : String) : Prop :=
  (∃ spec ∈ config.sources, c ∈ spec.categories) ∨ ∃ e ∈ config.extraTerms, c = e.category

/-- Whether some terms are those that a category owns, in increasing order. -/
def Owns (files : FileReader) (config : Config) (c : String) (terms : List String) : Prop :=
  terms.Pairwise (· < ·) ∧
    ∀ t, t ∈ terms ↔ IsFirst config.precedence.names (fun n => config.Routes files n t) c

end Config

section Runs

variable {files : FileReader} {config : Config} {sources : List Source} {failure : Failure}

/-- What is gathered has an entry for each category that is fed. -/
theorem mem_names_collect_iff (hload : ∀ spec ∈ config.sources, config.Loads files spec)
    (h : LoadedFrom files config.dataDirectory config.sources sources) {c : String} :
    c ∈ (Candidates.collect (config.contributions sources)).names ↔ config.Feeds c := by
  refine ⟨fed_of_mem_names h, fun hfeeds => ?_⟩
  rw [(Candidates.exact_collect (config.contributions sources)).names]
  rcases hfeeds with ⟨spec, hspec, hc⟩ | ⟨e, he, rfl⟩
  · obtain ⟨source, hsource⟩ := hload spec hspec
    refine ⟨.source source, mem_contributions.mpr (.inl ⟨_, (h _).mpr ⟨spec, hspec, hsource⟩, rfl⟩), ?_⟩
    rw [Contribution.categories, Source.categories_of_load hsource]
    exact hc
  · exact ⟨_, mem_contributions.mpr (.inr ⟨e, he, rfl⟩), List.mem_singleton_self _⟩

/-- A run whose loading fails ends there. -/
theorem outcome_generate_of_load_error
    (h : (loadSources files config.dataDirectory config.sources).outcome = .error failure) :
    (generate files config).outcome = .error failure := by
  simp only [generate, collectCandidates, Traced.outcome_bind, h, Except.bind]

/-- A run whose rules cannot be built ends there. -/
theorem outcome_generate_of_build_error
    (hload : (loadSources files config.dataDirectory config.sources).outcome = .ok sources)
    (hbuild : (buildRules (Candidates.collect (config.contributions sources))
      config.precedence).outcome = .error failure) :
    (generate files config).outcome = .error failure := by
  rw [outcome_generate_of_load hload, hbuild]
  rfl

/-- A run whose order is refused ends there. -/
theorem outcome_generate_of_resolve_error {fault : PrecedenceFault}
    (hload : (loadSources files config.dataDirectory config.sources).outcome = .ok sources)
    (hresolve : resolve (Candidates.collect (config.contributions sources)) config.precedence =
      .error fault) :
    (generate files config).outcome = .error (.precedence fault) := by
  refine outcome_generate_of_build_error hload ?_
  rw [outcome_buildRules, hresolve]

/-- A resolved category holds what it owns. -/
theorem owns_of_resolve (h : LoadedFrom files config.dataDirectory config.sources sources)
    {categories : List Category}
    (hresolve : resolve (Candidates.collect (config.contributions sources)) config.precedence =
      .ok categories) {c : Category} (hc : c ∈ categories) :
    config.Owns files c.name c.terms.toList := by
  refine ⟨c.terms.increasing, fun t => ?_⟩
  rw [toList_eq_owned hresolve hc, Precedence.mem_owned_iff]
  exact IsFirst.congr (fun n => (routes_iff h).symm)

/-- **All ends of a run.**  If some source does not load, the first such source ends the run, for its
file or for its JSON.  If all load, a name that the order repeats ends it, and without one the smallest
name that is fed and that the order leaves out, in the order of bytes.  Otherwise there is a grammar,
unless the rule for what some category owns is too large. -/
theorem generate_ends :
    ((¬ ∀ spec ∈ config.sources, config.Loads files spec) →
      ∃ above spec below failure, config.sources = above ++ spec :: below ∧
        (∀ s ∈ above, config.Loads files s) ∧
        Source.load files config.dataDirectory spec = .error failure ∧
        ((∃ cause, failure = .file (config.dataDirectory.join spec.file) cause) ∨
          ∃ cause position, failure = .json (config.dataDirectory.join spec.file) cause position) ∧
        (generate files config).outcome = .error failure) ∧
    ((∀ spec ∈ config.sources, config.Loads files spec) →
      (¬ config.precedence.names.Nodup → ∃ name, IsFirstRepeated config.precedence.names name ∧
        (generate files config).outcome = .error (.precedence (.repeated name))) ∧
      (config.precedence.names.Nodup →
        (∃ c, config.Feeds c ∧ c ∉ config.precedence.names) →
        ∃ c, config.Feeds c ∧ c ∉ config.precedence.names ∧
          (∀ d, config.Feeds d → d ∉ config.precedence.names → bytes c ≤ bytes d) ∧
          (generate files config).outcome = .error (.precedence (.unlisted c))) ∧
      (config.precedence.names.Nodup → (∀ c, config.Feeds c → c ∈ config.precedence.names) →
        (∃ result, (generate files config).outcome = .ok result) ∨
          ∃ c ∈ config.precedence.names, ∃ terms, config.Owns files c terms ∧ terms ≠ [] ∧
            Pattern.fitsLimit (alternation terms) = false ∧
            (generate files config).outcome = .error (.pattern ⟨c, .tooLarge⟩))) := by
  constructor
  · intro hnot
    obtain ⟨above, spec, below, failure, heq, habove, hspec⟩ := exists_first_failing hnot
    refine ⟨above, spec, below, failure, heq, habove, hspec, Source.cause_of_load hspec, ?_⟩
    refine outcome_generate_of_load_error ?_
    rw [heq]
    exact outcome_loadSources_of_error hspec habove
  · intro hload
    obtain ⟨sources, houtcome, hloaded⟩ := outcome_loadSources hload
    have hnames : ∀ c, c ∈ (Candidates.collect (config.contributions sources)).names ↔
        config.Feeds c := fun c => mem_names_collect_iff hload hloaded
    refine ⟨fun hrepeated => ?_, fun hnodup hunlisted => ?_, fun hnodup hlisted => ?_⟩
    · obtain ⟨name, hname, hresolve⟩ := resolve_of_not_nodup hrepeated
      exact ⟨name, hname, outcome_generate_of_resolve_error houtcome hresolve⟩
    · simp only [← hnames] at hunlisted ⊢
      obtain ⟨c, hc, hnot, hleast, hresolve⟩ := resolve_of_unlisted hnodup hunlisted
      exact ⟨c, hc, hnot, hleast, outcome_generate_of_resolve_error houtcome hresolve⟩
    · obtain ⟨categories, hresolve⟩ : ∃ categories, resolve
          (Candidates.collect (config.contributions sources)) config.precedence = .ok categories :=
        ⟨_, resolve_eq_ok_iff.mpr ⟨⟨hnodup, fun n hn => hlisted n ((hnames n).mp hn)⟩, rfl⟩⟩
      cases hlarge : Category.firstTooLarge? categories with
      | none =>
        have hbuild := outcome_buildRules_eq_ok_iff.mpr ⟨hresolve, hlarge, rfl⟩
        exact .inl ⟨_, outcome_generate houtcome hbuild⟩
      | some c =>
        have howning := List.mem_of_find?_eq_some hlarge
        have hc : c ∈ categories := List.mem_of_mem_filter howning
        have hfits : c.fits = false := by simpa using List.find?_some hlarge
        refine .inr ⟨c.name, names_of_resolve hresolve ▸ List.mem_map_of_mem hc, c.terms.toList,
          owns_of_resolve hloaded hresolve hc,
          Category.isEmpty_eq_false_iff.mp (Category.isEmpty_of_mem_owning howning), hfits, ?_⟩
        refine outcome_generate_of_build_error houtcome ?_
        simp only [outcome_buildRules, hresolve, hlarge]

end Runs

/-- An order that repeats one category and leaves out another. -/
def muddledLevels : Config := { levels with precedence := ⟨["level", "value", "level"]⟩ }

/-- The repetition is what ends the run, although `code` is left out too. -/
theorem generate_ends_muddled :
    (∀ spec ∈ muddledLevels.sources, muddledLevels.Loads levelFiles spec) ∧
      ¬ muddledLevels.precedence.names.Nodup ∧
      muddledLevels.Feeds "code" ∧ "code" ∉ muddledLevels.precedence.names ∧
      ∃ name, IsFirstRepeated muddledLevels.precedence.names name ∧
        (generate levelFiles muddledLevels).outcome = .error (.precedence (.repeated name)) := by
  have hload : ∀ spec ∈ muddledLevels.sources, muddledLevels.Loads levelFiles spec := by
    intro spec hspec
    have hmem := List.mem_map_of_mem (f := Source.load levelFiles levels.dataDirectory) hspec
    rw [show muddledLevels.sources = levels.sources from rfl, load_levels] at hmem
    obtain ⟨source, -, hsource⟩ := List.mem_map.mp hmem
    exact ⟨source, hsource.symm⟩
  have hrepeated : ¬ muddledLevels.precedence.names.Nodup := by decide
  exact ⟨hload, hrepeated, .inl ⟨⟨"codes.json", .mapping "code" "value"⟩, by decide, by decide⟩,
    by decide, (generate_ends.2 hload).1 hrepeated⟩

end KeywordGrammar
