/-
# Candidate terms

The candidates of a category are the terms that any source or extra list routes to it, before
categories compete for them.  A mapping feeds two categories: its keys and its marked values go to
the key category, its other values to the member category, unless the same source also marks them.
A plain value that merely equals some key stays a member; precedence settles that later.

A category exists from the moment something is routed to it, be it no term at all.
-/
import KeywordGrammar.Dictionary
import KeywordGrammar.Source
import KeywordGrammar.Term
import KeywordGrammar.TermSet

namespace KeywordGrammar

open Unicode

/-! ## 1. What a mapping contributes -/

/-- The two sets of terms that a mapping contributes. -/
structure MappingTerms where
  keys : TermSet
  members : TermSet
  deriving DecidableEq

namespace MappingTerms

/-- The normalized values of all entries. -/
def valuesOf (entries : List Entry) : List Term :=
  entries.flatMap (fun e => e.values.map Term.normalize)

/-- The texts of the values with the given role. -/
def textsOf (role : Role) (entries : List Entry) : List String :=
  ((valuesOf entries).filter (fun t => t.role = role)).map Term.text

/-- Keys and marked values on one side, the values that no mark excludes on the other. -/
def ofEntries (entries : List Entry) : MappingTerms where
  keys := TermSet.ofList
    (entries.map (fun e => (Term.normalize e.key).text) ++ textsOf .keyName entries)
  members := TermSet.ofList (textsOf .memberValue entries) \ TermSet.ofList (textsOf .keyName entries)

theorem mem_textsOf {role : Role} {entries : List Entry} {t : String} :
    t ∈ textsOf role entries ↔
      ∃ e ∈ entries, ∃ v ∈ e.values, Term.normalize v = ⟨t, role⟩ := by
  simp only [textsOf, valuesOf, List.mem_map, List.mem_filter, List.mem_flatMap, decide_eq_true_eq]
  constructor
  · rintro ⟨x, ⟨⟨e, he, v, hv, rfl⟩, hr⟩, rfl⟩
    exact ⟨e, he, v, hv, by rw [← hr]⟩
  · rintro ⟨e, he, v, hv, h⟩
    exact ⟨_, ⟨⟨e, he, v, hv, rfl⟩, by rw [h]⟩, by rw [h]⟩

theorem mem_keys_ofEntries {entries : List Entry} {t : String} :
    t ∈ (ofEntries entries).keys ↔ (∃ e ∈ entries, (Term.normalize e.key).text = t) ∨
      ∃ e ∈ entries, ∃ v ∈ e.values, Term.normalize v = ⟨t, .keyName⟩ := by
  simp [ofEntries, mem_textsOf]

theorem mem_members_ofEntries {entries : List Entry} {t : String} :
    t ∈ (ofEntries entries).members ↔
      (∃ e ∈ entries, ∃ v ∈ e.values, Term.normalize v = ⟨t, .memberValue⟩) ∧
      ¬ ∃ e ∈ entries, ∃ v ∈ e.values, Term.normalize v = ⟨t, .keyName⟩ := by
  simp only [ofEntries, TermSet.mem_diff, TermSet.mem_ofList, mem_textsOf]

end MappingTerms

/-! ## 2. Candidates by category -/

/-- The candidate terms of each category. -/
abbrev Candidates := Dictionary TermSet

namespace Candidates

/-- The candidates of a category, none if nothing was routed to it. -/
def terms (cands : Candidates) (category : String) : TermSet := (cands.get? category).getD ∅

/-- Routes terms to a category. -/
def add (cands : Candidates) (category : String) (new : TermSet) : Candidates :=
  cands.insert category (cands.terms category ∪ new)

theorem names_add {cands : Candidates} {category c : String} {new : TermSet} :
    c ∈ (cands.add category new).names ↔ c = category ∨ c ∈ cands.names :=
  Dictionary.mem_names_insert

theorem mem_terms_add {cands : Candidates} {category c : String} {new : TermSet} {t : String} :
    t ∈ (cands.add category new).terms c ↔ (c = category ∧ t ∈ new) ∨ t ∈ cands.terms c := by
  simp only [add, terms, Dictionary.get?_insert]
  split
  · rename_i h
    subst h
    simp [or_comm]
  · rename_i h
    simp [h]

/-- Routes the terms of a source. -/
def addSource (cands : Candidates) : Source → Candidates
  | .list category lines => cands.add category (TermSet.ofList (lines.map lower))
  | .mapping keyCategory memberCategory entries =>
    let found := MappingTerms.ofEntries entries
    (cands.add keyCategory found.keys).add memberCategory found.members

/-- Routes hand-picked terms, which carry no mark. -/
def addExtra (cands : Candidates) (category : String) (extra : List String) : Candidates :=
  cands.add category (TermSet.ofList (extra.map lower))

end Candidates

/-! ## 3. Contributions -/

/-- Something that routes terms to categories. -/
inductive Contribution where
  | source (source : Source)
  | extra (category : String) (terms : List String)
  deriving DecidableEq, Repr

namespace Candidates

/-- The candidates with one more contribution. -/
def contribute (cands : Candidates) : Contribution → Candidates
  | .source source => cands.addSource source
  | .extra category terms => cands.addExtra category terms

/-- The candidates of a sequence of contributions. -/
def collect (contributions : List Contribution) : Candidates :=
  contributions.foldl contribute ∅

end Candidates

end KeywordGrammar
