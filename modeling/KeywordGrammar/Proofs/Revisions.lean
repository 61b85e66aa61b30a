/-
# What a revision changes

Two runs are compared here: one before and one after more terms are listed for a category, or before
and after a category is moved up the order.  Each category learns about those above it through one set
only, that of the claimed terms, and to claim more from the start has one effect: each category loses
what was claimed (`keepInOrder_union`).  So both comparisons come down to where the two claimed sets
differ:

* when terms are listed for a category, they are claimed for all that follow it and for nobody above
  it (`resolve_add`);
* when a category moves up, its candidates are claimed for those that it passes, and behind them the
  two claimed sets are the same again (`resolve_promote`).
-/
import KeywordGrammar.Proofs.Ownership
import KeywordGrammar.Proofs.RuleLists
import Mathlib.Data.List.Perm.Subperm

namespace KeywordGrammar

/-! ## 1. Losing terms -/

namespace TermSet

theorem diff_union (s a b : TermSet) : s \ (a ∪ b) = (s \ a) \ b := by
  refine ext (fun t => ?_)
  simp only [mem_diff, mem_union, not_or, and_assoc]

theorem union_right_comm (a b c : TermSet) : a ∪ b ∪ c = a ∪ c ∪ b := by
  refine ext (fun t => ?_)
  simp only [mem_union, or_right_comm]

/-- A set is not larger than one that contains it. -/
theorem size_le_of_forall_mem {s u : TermSet} (h : ∀ t ∈ s, t ∈ u) : s.size ≤ u.size :=
  (s.nodup_toList.subperm h).length_le

end TermSet

/-- The category without some terms; they still count as listed for it. -/
def Category.lose (c : Category) (lost : TermSet) : Category :=
  ⟨c.name, c.terms \ lost, c.candidates, Nat.le_trans (TermSet.size_diff_le _ _) c.size_le⟩

/-! ## 2. The walk in parts -/

theorem keepInOrder_append (cands : Candidates) (above below : List String) (claimed : TermSet) :
    keepInOrder cands claimed (above ++ below) =
      keepInOrder cands claimed above ++ keepInOrder cands (cands.claimedBy claimed above) below := by
  induction above generalizing claimed with
  | nil => rfl
  | cons n above ih =>
    simp only [List.cons_append, keepInOrder, ih]
    rfl

/-- **To claim more from the start takes it from every category and changes nothing else.** -/
theorem keepInOrder_union (cands : Candidates) (lost : TermSet) (names : List String)
    (claimed : TermSet) : keepInOrder cands (claimed ∪ lost) names =
      (keepInOrder cands claimed names).map (fun c => c.lose lost) := by
  induction names generalizing claimed with
  | nil => rfl
  | cons n rest ih =>
    have hfirst : Category.keep n (cands.terms n) (claimed ∪ lost) =
        (Category.keep n (cands.terms n) claimed).lose lost := by
      simp only [Category.keep, Category.lose, TermSet.diff_union]
    rw [keepInOrder, hfirst, TermSet.union_right_comm, ih]
    rfl

section Congruence

variable {cands cands' : Candidates} {names : List String}

/-- The walk reads the candidates of the names that it passes and no others. -/
theorem keepInOrder_congr (h : ∀ n ∈ names, cands'.terms n = cands.terms n) (claimed : TermSet) :
    keepInOrder cands' claimed names = keepInOrder cands claimed names := by
  induction names generalizing claimed with
  | nil => rfl
  | cons n rest ih =>
    have hrest : ∀ m ∈ rest, cands'.terms m = cands.terms m :=
      fun m hm => h m (List.mem_cons_of_mem _ hm)
    rw [keepInOrder, keepInOrder, h n List.mem_cons_self, ih hrest]

theorem Candidates.claimedBy_congr (h : ∀ n ∈ names, cands'.terms n = cands.terms n)
    (claimed : TermSet) : cands'.claimedBy claimed names = cands.claimedBy claimed names := by
  refine TermSet.ext (fun t => ?_)
  rw [mem_claimedBy, mem_claimedBy]
  have hlists : (∃ n ∈ names, t ∈ cands'.terms n) ↔ ∃ n ∈ names, t ∈ cands.terms n := by
    constructor
    · rintro ⟨n, hn, ht⟩
      exact ⟨n, hn, h n hn ▸ ht⟩
    · rintro ⟨n, hn, ht⟩
      exact ⟨n, hn, (h n hn).symm ▸ ht⟩
  rw [hlists]

end Congruence

theorem Candidates.claimedBy_append (cands : Candidates) (claimed : TermSet)
    (above below : List String) : cands.claimedBy claimed (above ++ below) =
      cands.claimedBy (cands.claimedBy claimed above) below :=
  List.foldl_append

/-- What was claimed first can as well be claimed last. -/
theorem Candidates.claimedBy_union (cands : Candidates) (claimed more : TermSet)
    (names : List String) : cands.claimedBy (claimed ∪ more) names =
      cands.claimedBy claimed names ∪ more := by
  refine TermSet.ext (fun t => ?_)
  simp only [mem_claimedBy, TermSet.mem_union, or_right_comm]

/-- The walk passes the names above some name, that name, and those below it. -/
theorem keepInOrder_middle (cands : Candidates) (above below : List String) (c : String) :
    keepInOrder cands ∅ (above ++ c :: below) = keepInOrder cands ∅ above ++
      Category.keep c (cands.terms c) (cands.claimedBy ∅ above) ::
        keepInOrder cands (cands.claimedBy ∅ above ∪ cands.terms c) below := by
  rw [keepInOrder_append]
  rfl

theorem mem_terms_keep_claimedBy {cands : Candidates} {above : List String} {c t : String}
    {listed : TermSet} : t ∈ (Category.keep c listed (cands.claimedBy ∅ above)).terms ↔
      t ∈ listed ∧ ∀ n ∈ above, t ∉ cands.terms n := by
  simp [Category.keep, Candidates.mem_claimedBy]

/-! ## 3. More terms for one category -/

namespace Candidates

variable {cands : Candidates} {c n : String} {new : TermSet}

theorem terms_add_self : (cands.add c new).terms c = cands.terms c ∪ new := by
  simp only [add, terms, Dictionary.get?_insert, if_true, Option.getD_some]

theorem terms_add_of_ne (h : n ≠ c) : (cands.add c new).terms n = cands.terms n := by
  simp only [add, terms, Dictionary.get?_insert, if_neg h]

end Candidates

/-- The walk after more terms are listed for a name that it passes once. -/
theorem keepInOrder_add {cands : Candidates} {above below : List String} {c : String}
    (habove : c ∉ above) (hbelow : c ∉ below) (new : TermSet) :
    keepInOrder (cands.add c new) ∅ (above ++ c :: below) = keepInOrder cands ∅ above ++
      Category.keep c (cands.terms c ∪ new) (cands.claimedBy ∅ above) ::
        (keepInOrder cands (cands.claimedBy ∅ above ∪ cands.terms c) below).map
          (fun d => d.lose new) := by
  have hsame : ∀ {names : List String}, c ∉ names →
      ∀ n ∈ names, (cands.add c new).terms n = cands.terms n :=
    fun hc n hn => Candidates.terms_add_of_ne (fun heq => hc (heq ▸ hn))
  have hclaimed : cands.claimedBy ∅ above ∪ (cands.terms c ∪ new) =
      cands.claimedBy ∅ above ∪ cands.terms c ∪ new := by
    refine TermSet.ext (fun t => ?_)
    simp only [TermSet.mem_union, or_assoc]
  rw [keepInOrder_middle, keepInOrder_congr (hsame habove), keepInOrder_congr (hsame hbelow),
    Candidates.claimedBy_congr (hsame habove), Candidates.terms_add_self, hclaimed,
    keepInOrder_union]

/-! ## 4. The rules above a category -/

/-- The rules in front of those for the categories below `above`. -/
def rulesDownTo (above : List Category) : List Rule :=
  [baseRule, commentRule, bracketRule, stringRule] ++ (Category.owning above).map Category.rule

theorem ruleList_append (above below : List Category) :
    ∃ rest, ruleList (above ++ below) = rulesDownTo above ++ rest := by
  refine ⟨(Category.owning below).map Category.rule ++ [numericRule, fallbackRule], ?_⟩
  simp only [ruleList, rulesDownTo, Category.owning, List.filter_append, List.map_append,
    List.append_assoc]

theorem Category.firstTooLarge?_append (above below : List Category) :
    firstTooLarge? (above ++ below) = (firstTooLarge? above).or (firstTooLarge? below) := by
  simp only [firstTooLarge?, owning, List.filter_append, List.find?_append]

/-- **Runs with the same first categories have the same first rules.**  If the rules of one of them can
be built, then only a later category can stop the other. -/
theorem outcome_buildRules_of_above {cands cands' : Candidates} {order order' : Precedence}
    {above below below' : List Category} {rules : List Rule}
    (h : (buildRules cands order).outcome = .ok (above ++ below, rules))
    (hresolve : resolve cands' order' = .ok (above ++ below')) :
    (∃ rest, rules = rulesDownTo above ++ rest) ∧
      ((∃ rest, (buildRules cands' order').outcome =
          .ok (above ++ below', rulesDownTo above ++ rest)) ∨
        ∃ d ∈ below', d.fits = false ∧
          (buildRules cands' order').outcome = .error (.pattern ⟨d.name, .tooLarge⟩)) := by
  obtain ⟨-, hnone, rfl⟩ := outcome_buildRules_eq_ok_iff.mp h
  rw [Category.firstTooLarge?_append, Option.or_eq_none_iff] at hnone
  have hlarge : Category.firstTooLarge? (above ++ below') = Category.firstTooLarge? below' := by
    rw [Category.firstTooLarge?_append, hnone.1, Option.none_or]
  refine ⟨ruleList_append above below, ?_⟩
  cases hfirst : Category.firstTooLarge? below' with
  | none =>
    obtain ⟨rest, hrest⟩ := ruleList_append above below'
    rw [hfirst] at hlarge
    exact .inl ⟨rest, outcome_buildRules_eq_ok_iff.mpr ⟨hresolve, hlarge, hrest.symm⟩⟩
  | some d =>
    obtain ⟨howning, hfits⟩ := Category.firstTooLarge?_eq_some hfirst
    refine .inr ⟨d, List.mem_of_mem_filter howning, hfits, ?_⟩
    simp only [outcome_buildRules, hresolve, hlarge, hfirst]

/-! ## 5. Listing more terms -/

/-- **More terms for one category change nothing above it.**  When the terms of `new` are listed for `c`
too, resolving succeeds as before.  The categories above `c` stay as they are, and so do their rules:
where the rules could be built before, only `c` or a category below it can stop that now, by the size
of its rule.  To `c` fall the new terms that no name above it lists.  Each category below it loses the
new terms that it had, but not its number of candidates. -/
theorem resolve_add {cands : Candidates} {above below : List String} {c : String}
    {categories : List Category} (h : resolve cands ⟨above ++ c :: below⟩ = .ok categories)
    (new : TermSet) :
    ∃ higher old grown lower,
      categories = higher ++ old :: lower ∧
      resolve (cands.add c new) ⟨above ++ c :: below⟩ =
        .ok (higher ++ grown :: lower.map (fun d => d.lose new)) ∧
      higher.map Category.name = above ∧ lower.map Category.name = below ∧
      old.name = c ∧ grown.name = c ∧
      (∀ t, t ∈ grown.terms ↔ t ∈ old.terms ∨ (t ∈ new ∧ ∀ n ∈ above, t ∉ cands.terms n)) ∧
      grown.candidates = (cands.terms c ∪ new).size ∧
      ∀ rules, (buildRules cands ⟨above ++ c :: below⟩).outcome = .ok (categories, rules) →
        (∃ rest, rules = rulesDownTo higher ++ rest) ∧
          ((∃ rest, (buildRules (cands.add c new) ⟨above ++ c :: below⟩).outcome =
              .ok (higher ++ grown :: lower.map (fun d => d.lose new),
                rulesDownTo higher ++ rest)) ∨
            ∃ d ∈ grown :: lower.map (fun d => d.lose new), d.fits = false ∧
              (buildRules (cands.add c new) ⟨above ++ c :: below⟩).outcome =
                .error (.pattern ⟨d.name, .tooLarge⟩)) := by
  obtain ⟨⟨hnodup, hranked⟩, rfl⟩ := resolve_eq_ok_iff.mp h
  obtain ⟨-, hlower, hapart⟩ := List.nodup_append.mp hnodup
  have habove : c ∉ above := fun hin => hapart c hin c List.mem_cons_self rfl
  have hbelow : c ∉ below := (List.nodup_cons.mp hlower).1
  have hranked' : ∀ n ∈ (cands.add c new).names, n ∈ above ++ c :: below := by
    intro n hn
    rcases Candidates.names_add.mp hn with rfl | hn
    · exact List.mem_append_right above List.mem_cons_self
    · exact hranked n hn
  have hresolve := resolve_eq_ok_iff.mpr
    ⟨⟨hnodup, hranked'⟩, (keepInOrder_add habove hbelow new).symm⟩
  have hcategories := keepInOrder_middle cands above below c
  refine ⟨_, _, _, _, hcategories, hresolve, map_name_keepInOrder _ _ _, map_name_keepInOrder _ _ _,
    rfl, rfl, fun t => ?_, rfl, fun rules hrules => ?_⟩
  · rw [mem_terms_keep_claimedBy, mem_terms_keep_claimedBy, TermSet.mem_union, or_and_right]
  · rw [hcategories] at hrules
    exact outcome_buildRules_of_above hrules hresolve

/-- A code that is a level too, and further levels. -/
def numbers : Candidates where
  entries := [("code", ⟨["10"], by decide⟩), ("level", ⟨["10", "20", "30"], by decide⟩)]
  increasing := by decide

/-- Terms of which one is listed above `unit`, one below it, and one nowhere. -/
def units : TermSet := ⟨["10", "20", "40"], by decide⟩

/-- The code stays with its rule, `unit` gets the rest, and `level` loses one term but still counts it. -/
theorem resolve_add_numbers : ∃ categories after rules unit level,
    resolve numbers ⟨["code", "unit", "level"]⟩ = .ok categories ∧
      (buildRules numbers ⟨["code", "unit", "level"]⟩).outcome = .ok (categories, rules) ∧
      resolve (numbers.add "unit" units) ⟨["code", "unit", "level"]⟩ = .ok after ∧
      unit ∈ after ∧ unit.name = "unit" ∧ "10" ∉ unit.terms ∧ "20" ∈ unit.terms ∧
      "40" ∈ unit.terms ∧ level ∈ after ∧ level.name = "level" ∧ level.terms.toList = ["30"] ∧
      level.candidates = 3 ∧
      ∃ rest, rules = rulesDownTo [.ofTerms "code" (numbers.terms "code")] ++ rest := by
  have hranked : ∀ n ∈ numbers.names, n ∈ ["code", "unit", "level"] := by decide
  have hresolve : resolve numbers ⟨["code"] ++ "unit" :: ["level"]⟩ =
      .ok (keepInOrder numbers ∅ ["code", "unit", "level"]) :=
    resolve_eq_ok_iff.mpr ⟨⟨by decide, hranked⟩, rfl⟩
  have hlarge : Category.firstTooLarge? (keepInOrder numbers ∅ ["code", "unit", "level"]) = none := by
    decide +kernel
  have hbuild := outcome_buildRules_eq_ok_iff.mpr ⟨hresolve, hlarge, rfl⟩
  obtain ⟨higher, old, unit, lower, hparts, hafter, hhigher, hlower, -, hunit, hterms, -, hrules⟩ :=
    resolve_add hresolve units
  obtain ⟨code, rfl, -⟩ := List.map_eq_singleton_iff.mp hhigher
  obtain ⟨level, rfl, hlevel⟩ := List.map_eq_singleton_iff.mp hlower
  simp only [keepInOrder, List.cons_append, List.nil_append, List.cons.injEq, and_true] at hparts
  obtain ⟨rfl, rfl, rfl⟩ := hparts
  refine ⟨_, _, _, unit, _, hresolve, hbuild, hafter, by simp, hunit, ?_, ?_, ?_,
    List.mem_append_right _ (List.mem_cons_of_mem _ (List.mem_singleton_self _)), rfl, ?_, rfl, ?_⟩
  · rw [hterms]
    decide +kernel
  · rw [hterms]
    decide +kernel
  · rw [hterms]
    decide +kernel
  · decide +kernel
  · have hcode : Category.keep "code" (numbers.terms "code") ∅ =
        .ofTerms "code" (numbers.terms "code") := by decide +kernel
    rw [← hcode]
    exact (hrules _ hbuild).1

/-! ## 6. Moving a category up -/

/-- The walk after a name has moved up past some others. -/
theorem keepInOrder_promote (cands : Candidates) (above passed below : List String) (c : String) :
    keepInOrder cands ∅ (above ++ c :: passed ++ below) = keepInOrder cands ∅ above ++
      Category.keep c (cands.terms c) (cands.claimedBy ∅ above) ::
        (keepInOrder cands (cands.claimedBy ∅ above) passed).map
          (fun d => d.lose (cands.terms c)) ++
      keepInOrder cands (cands.claimedBy ∅ (above ++ passed) ∪ cands.terms c) below := by
  -- behind the names it has passed, the same names have been claimed as before
  have hclaimed : cands.claimedBy (cands.claimedBy ∅ above ∪ cands.terms c) passed =
      cands.claimedBy ∅ (above ++ passed) ∪ cands.terms c := by
    rw [Candidates.claimedBy_union, ← Candidates.claimedBy_append]
  rw [List.append_assoc, List.cons_append, keepInOrder_middle, keepInOrder_append,
    keepInOrder_union, hclaimed, List.append_assoc, List.cons_append]

/-- **A category that moves up takes its candidates from those it passes and from nobody else.**  When
`c` moves from below `passed` to above it, resolving succeeds as before.  Then `c` has those of its
candidates that no name still above it lists, among them all that it had.  The categories that it
passes lose the candidates of `c`, all others stay as they are, and so does each number of
candidates. -/
theorem resolve_promote {cands : Candidates} {above passed below : List String} {c : String}
    {categories : List Category}
    (h : resolve cands ⟨above ++ passed ++ c :: below⟩ = .ok categories) :
    ∃ higher overtaken old promoted lower,
      categories = higher ++ overtaken ++ old :: lower ∧
      resolve cands ⟨above ++ c :: passed ++ below⟩ = .ok (higher ++ promoted ::
        overtaken.map (fun d => d.lose (cands.terms c)) ++ lower) ∧
      higher.map Category.name = above ∧ overtaken.map Category.name = passed ∧
      lower.map Category.name = below ∧ old.name = c ∧ promoted.name = c ∧
      (∀ t, t ∈ promoted.terms ↔ t ∈ cands.terms c ∧ ∀ n ∈ above, t ∉ cands.terms n) ∧
      (∀ t ∈ old.terms, t ∈ promoted.terms) ∧ old.terms.size ≤ promoted.terms.size ∧
      promoted.candidates = old.candidates := by
  obtain ⟨⟨hnodup, hranked⟩, rfl⟩ := resolve_eq_ok_iff.mp h
  have hperm : (above ++ passed ++ c :: below).Perm (above ++ c :: passed ++ below) := by
    simp only [List.append_assoc, List.cons_append]
    exact List.perm_middle.append_left above
  have hresolve := resolve_eq_ok_iff.mpr
    ⟨⟨hperm.nodup_iff.mp hnodup, fun n hn => hperm.mem_iff.mp (hranked n hn)⟩,
      (keepInOrder_promote cands above passed below c).symm⟩
  have hcategories := keepInOrder_middle cands (above ++ passed) below c
  rw [keepInOrder_append cands above passed] at hcategories
  have hmore : ∀ t ∈ (Category.keep c (cands.terms c) (cands.claimedBy ∅ (above ++ passed))).terms,
      t ∈ (Category.keep c (cands.terms c) (cands.claimedBy ∅ above)).terms := by
    intro t ht
    obtain ⟨hlisted, hfree⟩ := mem_terms_keep_claimedBy.mp ht
    exact mem_terms_keep_claimedBy.mpr
      ⟨hlisted, fun n hn => hfree n (List.mem_append_left passed hn)⟩
  exact ⟨_, _, _, _, _, hcategories, hresolve, map_name_keepInOrder _ _ _,
    map_name_keepInOrder _ _ _, map_name_keepInOrder _ _ _, rfl, rfl,
    fun t => mem_terms_keep_claimedBy, hmore, TermSet.size_le_of_forall_mem hmore, rfl⟩

/-- The level that was ranked below the code takes it over, and the code still counts it. -/
theorem resolve_promote_numbers : ∃ categories after level code,
    resolve numbers ⟨["unit", "code", "level"]⟩ = .ok categories ∧
      resolve numbers ⟨["unit", "level", "code"]⟩ = .ok after ∧
      level ∈ after ∧ level.name = "level" ∧ "10" ∈ level.terms ∧ level.candidates = 3 ∧
      code ∈ after ∧ code.name = "code" ∧ code.terms = ∅ ∧ code.candidates = 1 := by
  have hranked : ∀ n ∈ numbers.names, n ∈ ["unit", "code", "level"] := by decide
  have hresolve : resolve numbers ⟨["unit"] ++ ["code"] ++ "level" :: []⟩ =
      .ok (keepInOrder numbers ∅ ["unit", "code", "level"]) :=
    resolve_eq_ok_iff.mpr ⟨⟨by decide, hranked⟩, rfl⟩
  obtain ⟨higher, overtaken, old, level, lower, hparts, hafter, hhigher, hovertaken, hlower, -, hlevel,
    hterms, -, -, hcount⟩ := resolve_promote hresolve
  obtain ⟨unit, rfl, -⟩ := List.map_eq_singleton_iff.mp hhigher
  obtain ⟨code, rfl, -⟩ := List.map_eq_singleton_iff.mp hovertaken
  obtain rfl := List.map_eq_nil_iff.mp hlower
  simp only [keepInOrder, List.cons_append, List.nil_append, List.cons.injEq, and_true] at hparts
  obtain ⟨rfl, rfl, rfl⟩ := hparts
  refine ⟨_, _, level, _, hresolve, hafter, by simp, hlevel, ?_, hcount,
    List.mem_append_left _ (List.mem_append_right _
      (List.mem_cons_of_mem _ (List.mem_singleton_self _))), rfl, ?_, rfl⟩
  · rw [hterms]
    decide +kernel
  · decide +kernel

end KeywordGrammar
