/-
# Categories and the ownership of terms

A category owns a term if it lists the term and no category ranked above it does.  Going down the
order it is enough to remember which terms any higher category has listed: a term that a category
lost to a higher one stays taken for all that follow.
-/
import KeywordGrammar.Precedence

namespace KeywordGrammar

/-! ## 1. The type -/

/-- A named set of terms that becomes one rule, with the number of terms that were listed for it. -/
structure Category where
  name : String
  terms : TermSet
  candidates : Nat
  size_le : terms.size ≤ candidates

namespace Category

instance : DecidableEq Category := fun c d =>
  if h : c.name = d.name ∧ c.terms = d.terms ∧ c.candidates = d.candidates then
    .isTrue (by cases c; cases d; simp_all)
  else .isFalse (fun he => h (he ▸ ⟨rfl, rfl, rfl⟩))

/-- A category that keeps every term listed for it. -/
def ofTerms (name : String) (terms : TermSet) : Category := ⟨name, terms, terms.size, Nat.le_refl _⟩

/-- Whether the category owns no term. -/
def isEmpty (c : Category) : Bool := c.terms.isEmpty

/-- Number of terms that a higher category listed too. -/
def shadowed (c : Category) : Nat := c.candidates - c.terms.size

/-- What a category kept and what it lost make up what was listed for it. -/
theorem size_add_shadowed (c : Category) : c.terms.size + c.shadowed = c.candidates := by
  have := c.size_le
  unfold shadowed
  omega

/-- The category of one rank: of what is listed for it, it keeps what nobody above has claimed. -/
def keep (name : String) (listed claimed : TermSet) : Category :=
  ⟨name, listed \ claimed, listed.size, TermSet.size_diff_le _ _⟩

end Category

/-! ## 2. Resolving -/

/-- One category a name, down the order; `claimed` is what the names above have listed. -/
def keepInOrder (cands : Candidates) (claimed : TermSet) : List String → List Category
  | [] => []
  | name :: rest =>
    Category.keep name (cands.terms name) claimed ::
      keepInOrder cands (claimed ∪ cands.terms name) rest

/-- Gives every candidate term to the first category of the order that lists it. -/
def resolve (cands : Candidates) (order : Precedence) : Except PrecedenceFault (List Category) :=
  match order.fault? cands with
  | some fault => .error fault
  | none => .ok (keepInOrder cands ∅ order.names)

/-- The categories come out in the order's sequence. -/
theorem map_name_keepInOrder (cands : Candidates) : ∀ (claimed : TermSet) (names : List String),
    (keepInOrder cands claimed names).map Category.name = names
  | _, [] => rfl
  | claimed, name :: rest => by
    simp [keepInOrder, Category.keep, map_name_keepInOrder cands (claimed ∪ cands.terms name) rest]

end KeywordGrammar
