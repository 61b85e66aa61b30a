/-
# How large a rule is

A rule is refused if its pattern is too large, and how large a pattern is depends on its shape.  That of
the pattern for some terms is made of the shapes of their letters alone: the literal of a letter
without other forms, and the set of all forms of any other letter (`fitsLimit_alternation`).

Spans are sorted when they are put together.  For the forms of a letter, each of which is a span of its
own, any way of sorting has the same result; with one that is a recursion on the list the size of a
rule can be computed from its terms.
-/
import KeywordGrammar.Proofs.RuleLists
import Mathlib.Data.List.Sort

namespace KeywordGrammar

open Unicode

/-- Single characters are put together in the order of their code points. -/
theorem Unicode.Spans.join_of_single {spans : Spans} (h : ∀ s ∈ spans, s.1 = s.2) :
    join spans = joinOnto [] (spans.insertionSort (fun a b => a.1 ≤ b.1)) := by
  have : Std.Total (fun a b : Nat × Nat => a.1 ≤ b.1) := ⟨fun a b => Nat.le_total a.1 b.1⟩
  have : IsTrans (Nat × Nat) (fun a b => a.1 ≤ b.1) := ⟨fun _ _ _ => Nat.le_trans⟩
  have hmerged : (spans.mergeSort (fun a b => a.1 ≤ b.1)).Pairwise (fun a b => a.1 ≤ b.1) := by
    have htrans : ∀ a b c : Nat × Nat, decide (a.1 ≤ b.1) = true → decide (b.1 ≤ c.1) = true →
        decide (a.1 ≤ c.1) = true := by
      simp only [decide_eq_true_iff]
      exact fun _ _ _ => Nat.le_trans
    have htotal : ∀ a b : Nat × Nat, (decide (a.1 ≤ b.1) || decide (b.1 ≤ a.1)) = true := by
      simp only [Bool.or_eq_true, decide_eq_true_iff]
      exact fun a b => Nat.le_total a.1 b.1
    simpa using List.pairwise_mergeSort htrans htotal spans
  have hinserted := List.pairwise_insertionSort (fun a b : Nat × Nat => a.1 ≤ b.1) spans
  have hperm := (List.mergeSort_perm spans (fun a b => a.1 ≤ b.1)).trans
    (List.perm_insertionSort (fun a b => a.1 ≤ b.1) spans).symm
  rw [join, List.Perm.eq_of_pairwise ?_ hmerged hinserted hperm]
  intro a b ha hb hab hba
  have hsa := h a (List.mem_mergeSort.mp ha)
  have hsb := h b ((List.mem_insertionSort _).mp hb)
  have hfirst : a.1 = b.1 := Nat.le_antisymm hab hba
  exact Prod.ext hfirst (hsa ▸ hsb ▸ hfirst)

namespace Pattern

/-- The shape of a letter in any case. -/
def letterShape (c : Char) : Shape :=
  match caseVariants c with
  | [] | [_] => .literal [c]
  | forms =>
    .set (.joinOnto [] ((forms.map (fun d => (d.toNat, d.toNat))).insertionSort
      (fun a b => a.1 ≤ b.1))) true

theorem ofLetter_anyCase (c : Char) : Shape.ofLetter .anyCase c = letterShape c := by
  have hjoin : ∀ forms : List Char, Spans.join (forms.map (fun d => (d.toNat, d.toNat))) =
      Spans.joinOnto [] ((forms.map (fun d => (d.toNat, d.toNat))).insertionSort
        (fun a b => a.1 ≤ b.1)) := by
    intro forms
    refine Spans.join_of_single (fun s hs => ?_)
    obtain ⟨d, -, rfl⟩ := List.mem_map.mp hs
    rfl
  have hcase : Flags.anyCase.caseless = true := rfl
  have hunicode : Flags.anyCase.unicode = true := rfl
  unfold Shape.ofLetter letterShape
  rw [hcase, hunicode]
  generalize caseVariants c = forms
  rcases forms with _ | ⟨a, _ | ⟨b, rest⟩⟩
  · rfl
  · rfl
  · exact congrArg (Shape.set · true) (hjoin (a :: b :: rest))

/-- **Whether the pattern for some terms is small enough depends on the shapes of their letters.** -/
theorem fitsLimit_alternation {terms : List String} (h : terms ≠ []) :
    fitsLimit (alternation terms) =
      (Shape.wholeWord letterShape (terms.map String.toList)).fits compiledSizeLimit := by
  rw [fitsLimit, read_alternation_eq h, funext ofLetter_anyCase]

/-- A few words take little room. -/
example : fitsLimit (alternation ["item", "itemname", "spawnbot"]) = true := by
  rw [fitsLimit_alternation (by decide)]
  decide +kernel

end Pattern

/-- No rule is too large if the shapes of what the categories keep are not. -/
theorem Category.firstTooLarge?_eq_none_of_shapes {categories : List Category}
    {kept : List (List String)} (h : categories.map (fun c => c.terms.toList) = kept)
    (hfits : ∀ terms ∈ kept, (Pattern.Shape.wholeWord Pattern.letterShape
      (terms.map String.toList)).fits compiledSizeLimit = true) :
    firstTooLarge? categories = none := by
  refine firstTooLarge?_eq_none_of_map h (fun terms hterms hne => ?_)
  rw [Pattern.fitsLimit_alternation hne]
  exact hfits terms hterms

end KeywordGrammar
