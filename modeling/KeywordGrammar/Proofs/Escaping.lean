/-
# No term leaves its branch

A pattern is put together from terms of any kind, so a term might hold what ends a branch, opens a group
or takes away the meaning of the bar behind it.  Since everything of that kind is escaped, the reader
finds what was put in: one branch for each term, and in it the letters of that term
(`Pattern.tree_read_alternation`).  So nothing is lost on the way to the text, and `Pattern.termsOf?`
gets the terms back.

One thing is not told apart: no term at all and one without letters have the same pattern.  Categories
without terms have no rule, so this never matters.
-/
import KeywordGrammar.Proofs.RuleLists

namespace KeywordGrammar

/-! ## 1. Getting the terms back -/

namespace Pattern

/-- The texts of the branches of a pattern, if each of them is a text. -/
def branchTexts? : Pattern → Option (List String)
  | .literal _ text => some [String.ofList text]
  | .either (.literal _ text) rest => (branchTexts? rest).map (String.ofList text :: ·)
  | _ => none

/-- The texts of the branches that stand between word boundaries, if the pattern is made so. -/
def wholeWordTexts? : Pattern → Option (List String)
  | .seq (.anchor .wordBoundary) (.seq (.group 1 body) (.anchor .wordBoundary)) => branchTexts? body
  | _ => none

/-- The terms for which a pattern was written. -/
def termsOf? (pattern : String) : Option (List String) :=
  match read pattern with
  | .ok r => wholeWordTexts? r.meaning
  | .error _ => none

theorem branchTexts?_oneOf {terms : List String} (h : terms ≠ []) :
    branchTexts? (oneOf (terms.map (fun t => ofTerm t.toList))) = some terms := by
  induction terms with
  | nil => exact absurd rfl h
  | cons first others ih =>
    cases others with
    | nil => simp [oneOf, ofTerm, branchTexts?]
    | cons second others =>
      have hrest := ih (List.cons_ne_nil second others)
      rw [List.map_cons] at hrest
      rw [List.map_cons, List.map_cons, oneOf, ofTerm, branchTexts?, hrest, String.ofList_toList]
      · rfl
      · simp

/-- **The terms can be got back from their pattern.** -/
theorem termsOf?_alternation {terms : List String} (h : terms ≠ []) :
    termsOf? (alternation terms) = some terms := by
  obtain ⟨shape, hread⟩ := read_alternation h
  rw [termsOf?, hread]
  exact branchTexts?_oneOf h

theorem eq_of_alternation_eq {terms others : List String} (h : terms ≠ []) (h' : others ≠ [])
    (heq : alternation others = alternation terms) : others = terms := by
  have hterms := termsOf?_alternation h
  rw [← heq, termsOf?_alternation h'] at hterms
  exact Option.some.inj hterms

/-- No term and one term without letters are written alike. -/
example : alternation [] = alternation [""] := by decide +kernel

end Pattern

/-! ## 2. Rules are never malformed -/

/-- A category that owns a term has a rule, unless that is too large. -/
theorem Category.rule?_of_owning {c : Category} (h : c.isEmpty = false) :
    c.rule? = .ok (some c.rule) ∨ (c.fits = false ∧ c.rule? = .error ⟨c.name, .tooLarge⟩) := by
  rw [rule?_eq, h]
  cases hfits : c.fits with
  | true => exact .inl rfl
  | false => exact .inr ⟨rfl, rfl⟩

/-- The rules of any categories can be put together, unless one of them is too large. -/
theorem assemble_ends (categories : List Category) : assemble categories = .ok (ruleList categories) ∨
    ∃ c ∈ categories, c.isEmpty = false ∧ c.fits = false ∧
      assemble categories = .error ⟨c.name, .tooLarge⟩ := by
  rw [assemble_eq_ruleList]
  cases hlarge : Category.firstTooLarge? categories with
  | none => exact .inl rfl
  | some c =>
    obtain ⟨howning, hfits⟩ := Category.firstTooLarge?_eq_some hlarge
    exact .inr ⟨c, List.mem_of_mem_filter howning, Category.isEmpty_of_mem_owning howning, hfits, rfl⟩

/-- **Escaping is faithful.**  Whatever the terms are, their pattern is read as a change to letters of
any case, a word boundary, one group, and a word boundary again, and the branches of the group are the
terms, letter by letter and in their order.  So the terms can be got back, and no other terms have this
pattern.  So, too, the rule of a category is never malformed, and no list of rules is refused unless
one of them is too large. -/
theorem alternation_is_faithful :
    (∀ terms : List String, terms ≠ [] →
      (∃ trees t, List.Forall₂ Pattern.Branch (terms.map String.toList) trees ∧
        Pattern.AlternationTree trees t ∧ Pattern.Tree.read (alternation terms) = .ok t) ∧
      (∃ shape, Pattern.read (alternation terms) = .ok ⟨Pattern.wholeWord terms, shape⟩) ∧
      Pattern.termsOf? (alternation terms) = some terms ∧
      ∀ others : List String, others ≠ [] → others ≠ terms →
        alternation others ≠ alternation terms) ∧
    (∀ c : Category, (c.isEmpty = true ∧ c.rule? = .ok none) ∨ c.rule? = .ok (some c.rule) ∨
      (c.fits = false ∧ c.rule? = .error ⟨c.name, .tooLarge⟩)) ∧
    ∀ categories : List Category, assemble categories = .ok (ruleList categories) ∨
      ∃ c ∈ categories, c.isEmpty = false ∧ c.fits = false ∧
        assemble categories = .error ⟨c.name, .tooLarge⟩ := by
  refine ⟨fun terms h => ?_, fun c => ?_, assemble_ends⟩
  · have hunique : ∀ others : List String, others ≠ [] → others ≠ terms →
        alternation others ≠ alternation terms :=
      fun others h' hne heq => hne (Pattern.eq_of_alternation_eq h h' heq)
    exact ⟨Pattern.tree_read_alternation h, Pattern.read_alternation h,
      Pattern.termsOf?_alternation h, hunique⟩
  · cases hempty : c.isEmpty with
    | true => exact .inl ⟨rfl, by rw [Category.rule?_eq, hempty]; rfl⟩
    | false => exact .inr (Category.rule?_of_owning hempty)

/-- Terms that hold bars, parentheses, a change of flags or a backslash at their end, and one without
letters. -/
def hostileTerms : List String := ["a|b", "", "c\\", ")\n(", "(?-i)", "[^"]

/-- Such terms come back one by one, and a bar inside of a term is told from one between terms. -/
theorem alternation_is_faithful_hostile :
    hostileTerms ≠ [] ∧ Pattern.termsOf? (alternation hostileTerms) = some hostileTerms ∧
      (∃ shape, Pattern.read (alternation hostileTerms) =
        .ok ⟨Pattern.wholeWord ["a|b", "", "c\\", ")\n(", "(?-i)", "[^"], shape⟩) ∧
      ["a", "b"] ≠ hostileTerms ∧ alternation ["a", "b"] ≠ alternation hostileTerms := by
  have hne : hostileTerms ≠ [] := by decide
  have hother : ["a", "b"] ≠ hostileTerms := by decide
  obtain ⟨-, hread, hback, hunique⟩ := alternation_is_faithful.1 hostileTerms hne
  exact ⟨hne, hback, hread, hother, hunique _ (by decide) hother⟩

end KeywordGrammar
