/-
# What the rule list is made of

Resolved categories become rules, and each rule is tried before it is used.  The pattern that is
written for a set of terms can always be read (`Pattern.read_alternation`), so only the size of its
automaton can be an obstacle.  With that the assembly has two outcomes, both of which can be said
outright (`assemble_eq_ruleList`): the first category whose rule is too large is reported, or every
category that owns a term has its rule between the structural rules and the last two.

`outcome_buildRules` puts the resolving in front of it: these are all outcomes for any candidates and
any order.
-/
import KeywordGrammar.Generation
import KeywordGrammar.Proofs.Alternations

namespace KeywordGrammar

/-! ## 1. The rule of one category -/

/-- Whether no automaton of a pattern is larger than a rule may have it. -/
def Pattern.fitsLimit (pattern : String) : Bool :=
  match Pattern.read pattern with
  | .ok r => r.shape.fits compiledSizeLimit
  | .error _ => true

/-- The rule for some terms can be used unless it is too large. -/
theorem Rule.compile_alternation {terms : List String} (h : terms ≠ []) (name : String) :
    (Rule.named name (alternation terms)).compile =
      if Pattern.fitsLimit (alternation terms) then .ok (Pattern.wholeWord terms)
      else .error ⟨name, .tooLarge⟩ := by
  obtain ⟨shape, hread⟩ := Pattern.read_alternation h
  have hpattern : (Rule.named name (alternation terms)).pattern = alternation terms := rfl
  rw [compile, hpattern, Pattern.fitsLimit, hread]
  rfl

namespace Category

/-- The rule of a category that owns a term. -/
def rule (c : Category) : Rule := .named c.name (alternation c.terms.toList)

/-- Whether the rule of a category is small enough. -/
def fits (c : Category) : Bool := Pattern.fitsLimit (alternation c.terms.toList)

theorem isEmpty_eq_false_iff {c : Category} : c.isEmpty = false ↔ c.terms.toList ≠ [] := by
  simp [isEmpty, TermSet.isEmpty]

theorem compile_rule {c : Category} (h : c.isEmpty = false) : c.rule.compile =
    if c.fits then .ok (Pattern.wholeWord c.terms.toList) else .error ⟨c.name, .tooLarge⟩ :=
  Rule.compile_alternation (isEmpty_eq_false_iff.mp h) c.name

theorem rule?_eq (c : Category) : c.rule? =
    if c.isEmpty then .ok none else if c.fits then .ok (some c.rule) else .error ⟨c.name, .tooLarge⟩ := by
  unfold rule?
  cases hempty : c.isEmpty with
  | true => rfl
  | false =>
    have hcompile := compile_rule hempty
    rw [rule] at hcompile
    simp only [Bool.false_eq_true, if_false, hcompile]
    cases c.fits with
    | true => rfl
    | false => rfl

/-! ## 2. The rules of all categories -/

/-- The categories that own a term. -/
def owning (categories : List Category) : List Category := categories.filter (fun c => !c.isEmpty)

/-- The first category that owns a term and whose rule is too large. -/
def firstTooLarge? (categories : List Category) : Option Category :=
  (owning categories).find? (fun c => !c.fits)

end Category

open Category

theorem dynamicRules_eq : ∀ categories : List Category, dynamicRules categories =
    match firstTooLarge? categories with
    | some c => .error ⟨c.name, .tooLarge⟩
    | none => .ok ((owning categories).map rule)
  | [] => rfl
  | c :: rest => by
    rw [dynamicRules, rule?_eq, dynamicRules_eq rest]
    cases hempty : c.isEmpty with
    | true =>
      have howning : owning (c :: rest) = owning rest := by simp [owning, hempty]
      rw [firstTooLarge?, firstTooLarge?, howning]
      rfl
    | false =>
      have howning : owning (c :: rest) = c :: owning rest := by simp [owning, hempty]
      rw [firstTooLarge?, firstTooLarge?, howning, List.find?_cons]
      cases hfits : c.fits with
      | true => cases (owning rest).find? (fun c => !c.fits) <;> rfl
      | false => rfl

/-- The rule list of resolved categories. -/
def ruleList (categories : List Category) : List Rule :=
  [baseRule, commentRule, bracketRule, stringRule] ++ (owning categories).map rule ++
    [numericRule, fallbackRule]

theorem assemble_eq_ruleList (categories : List Category) : assemble categories =
    match firstTooLarge? categories with
    | some c => .error ⟨c.name, .tooLarge⟩
    | none => .ok (ruleList categories) := by
  rw [assemble_eq, dynamicRules_eq]
  cases firstTooLarge? categories with
  | some c => rfl
  | none => rfl

/-! ## 3. Resolving and assembling -/

theorem mapError_ok {α ε ε' : Type} (a : α) (f : ε → ε') :
    (Except.ok a : Except ε α).mapError f = .ok a :=
  rfl

theorem eq_ok_of_toOption {ε α : Type} {e : Except ε α} {a : α} (h : e.toOption = some a) :
    e = .ok a := by
  cases e with
  | error failure => cases h
  | ok b => rw [Option.some.inj h]

/-- **All outcomes of building rules.**  The order is refused, or the first rule that is too large, or
the rule list is complete. -/
theorem outcome_buildRules (cands : Candidates) (order : Precedence) :
    (buildRules cands order).outcome =
      match resolve cands order with
      | .error fault => .error (.precedence fault)
      | .ok categories =>
        match firstTooLarge? categories with
        | some c => .error (.pattern ⟨c.name, .tooLarge⟩)
        | none => .ok (categories, ruleList categories) := by
  simp only [buildRules, Traced.outcome_bind, Traced.outcome_pure, Traced.ofExcept,
    assemble_eq_ruleList]
  cases resolve cands order with
  | error fault => rfl
  | ok categories =>
    simp only [mapError_ok, Except.bind]
    cases firstTooLarge? categories with
    | some c => rfl
    | none => rfl

theorem outcome_buildRules_eq_ok_iff {cands : Candidates} {order : Precedence}
    {categories : List Category} {rules : List Rule} :
    (buildRules cands order).outcome = .ok (categories, rules) ↔
      resolve cands order = .ok categories ∧ firstTooLarge? categories = none ∧
        rules = ruleList categories := by
  rw [outcome_buildRules]
  cases resolve cands order with
  | error fault => simp
  | ok found =>
    cases hlarge : firstTooLarge? found with
    | some c =>
      simp only [hlarge, reduceCtorEq, false_iff]
      rintro ⟨hfound, hnone, -⟩
      cases hfound
      rw [hlarge] at hnone
      cases hnone
    | none =>
      simp only [hlarge, Except.ok.injEq, Prod.mk.injEq]
      constructor
      · rintro ⟨rfl, rfl⟩
        exact ⟨rfl, hlarge, rfl⟩
      · rintro ⟨rfl, -, rfl⟩
        exact ⟨rfl, rfl⟩

theorem Category.firstTooLarge?_eq_some {categories : List Category} {c : Category}
    (h : firstTooLarge? categories = some c) : c ∈ owning categories ∧ c.fits = false :=
  ⟨List.mem_of_find?_eq_some h, by simpa using List.find?_some h⟩

/-- An order that ranks the candidates is given up only for a rule that is too large. -/
theorem outcome_buildRules_eq_error {cands : Candidates} {order : Precedence}
    {categories : List Category} (hresolve : resolve cands order = .ok categories) {e : Failure}
    (h : (buildRules cands order).outcome = .error e) :
    ∃ c ∈ owning categories, c.fits = false ∧ e = .pattern ⟨c.name, .tooLarge⟩ := by
  rw [outcome_buildRules, hresolve] at h
  simp only at h
  split at h
  · rename_i c hlarge
    obtain ⟨hc, hfits⟩ := Category.firstTooLarge?_eq_some hlarge
    exact ⟨c, hc, hfits, (Except.error.inj h).symm⟩
  · cases h

theorem Category.isEmpty_of_mem_owning {categories : List Category} {c : Category}
    (hc : c ∈ owning categories) : c.isEmpty = false := by
  have := (List.mem_filter.mp hc).2
  rwa [Bool.not_eq_true'] at this

theorem Category.mem_owning_of_mem_terms {categories : List Category} {c : Category}
    (hc : c ∈ categories) {t : String} (ht : t ∈ c.terms) : c ∈ owning categories := by
  have hempty : c.isEmpty = false := isEmpty_eq_false_iff.mpr (List.ne_nil_of_mem ht)
  exact List.mem_filter.mpr ⟨hc, by rw [hempty]; rfl⟩

/-- No rule is too large if none of those for what the categories keep is. -/
theorem Category.firstTooLarge?_eq_none_of_map {categories : List Category}
    {kept : List (List String)} (h : categories.map (fun c => c.terms.toList) = kept)
    (hfits : ∀ terms ∈ kept, terms ≠ [] → Pattern.fitsLimit (alternation terms) = true) :
    firstTooLarge? categories = none := by
  refine List.find?_eq_none.mpr (fun c hc => ?_)
  have hterms : c.terms.toList ∈ kept := h ▸ List.mem_map_of_mem (List.mem_of_mem_filter hc)
  have hne := isEmpty_eq_false_iff.mp (isEmpty_of_mem_owning hc)
  rw [fits, hfits _ hterms hne]
  decide

/-- Each rule of a category that owns a term can be used, if none is too large. -/
theorem compile_rule_of_mem_owning {categories : List Category}
    (h : firstTooLarge? categories = none) {c : Category} (hc : c ∈ owning categories) :
    c.rule.compile = .ok (Pattern.wholeWord c.terms.toList) := by
  have hfits : c.fits = true := by
    have := List.find?_eq_none.mp h c hc
    simpa using this
  rw [compile_rule (isEmpty_of_mem_owning hc), if_pos hfits]

end KeywordGrammar
