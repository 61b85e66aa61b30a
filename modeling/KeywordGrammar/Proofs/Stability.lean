/-
# Resolving a second time

What categories own after resolving can be taken for candidates again.  No two of these sets share a
term, and where that is so nothing can be claimed that anyone below lists: the walk down an order
leaves every set as it is (`keepInOrder_of_apart`).  The sequence of the names has no part in it, so the
second time any order of the same names will do (`resolve_again`), and under the first order the rules
are the same.

A category that owns nothing may be listed with no term for the second run or not be listed at all.
Both are allowed for here (`IsOwnedBy`).

A mapping by itself is such an input too, if none of its members is among the keys
(`resolve_collect_mapping`).
-/
import KeywordGrammar.Proofs.Ownership
import KeywordGrammar.Proofs.Routing
import KeywordGrammar.Rule.Assembly

namespace KeywordGrammar

open scoped List

/-! ## 1. Sets without common terms -/

/-- Whether no term is listed for both of two names. -/
def Candidates.Apart (cands : Candidates) (m n : String) : Prop :=
  ∀ t ∈ cands.terms m, t ∉ cands.terms n

theorem Candidates.Apart.symm {cands : Candidates} {m n : String} (h : cands.Apart m n) :
    cands.Apart n m :=
  fun t ht htm => h t htm ht

theorem TermSet.diff_of_apart {s claimed : TermSet} (h : ∀ t ∈ s, t ∉ claimed) : s \ claimed = s := by
  refine TermSet.ext (fun t => ?_)
  rw [TermSet.mem_diff]
  exact ⟨And.left, fun ht => ⟨ht, h t ht⟩⟩

/-- **If no two names list the same term, then every name keeps all that is listed for it.**  What is
claimed on the way comes from other names, so it is of no use to those that follow. -/
theorem keepInOrder_of_apart {cands : Candidates} {names : List String} {claimed : TermSet}
    (hapart : names.Pairwise cands.Apart) (hclaimed : ∀ n ∈ names, ∀ t ∈ cands.terms n, t ∉ claimed) :
    keepInOrder cands claimed names = names.map (fun n => .ofTerms n (cands.terms n)) := by
  induction names generalizing claimed with
  | nil => rfl
  | cons n rest ih =>
    obtain ⟨hn, hrest⟩ := List.pairwise_cons.mp hapart
    have hkeep : Category.keep n (cands.terms n) claimed = .ofTerms n (cands.terms n) := by
      simp only [Category.keep, Category.ofTerms,
        TermSet.diff_of_apart (hclaimed n List.mem_cons_self)]
    have hnext : ∀ m ∈ rest, ∀ t ∈ cands.terms m, t ∉ claimed ∪ cands.terms n := by
      intro m hm t ht
      rw [TermSet.mem_union, not_or]
      exact ⟨hclaimed m (List.mem_cons_of_mem n hm) t ht, (hn m hm).symm t ht⟩
    rw [keepInOrder, hkeep, ih hrest hnext, List.map_cons]

/-- So an order that ranks sets without common terms takes nothing from any of them. -/
theorem resolve_of_apart {cands : Candidates} {order : Precedence} (hnodup : order.names.Nodup)
    (hranked : ∀ n ∈ cands.names, n ∈ order.names) (hapart : order.names.Pairwise cands.Apart) :
    resolve cands order = .ok (order.names.map (fun n => .ofTerms n (cands.terms n))) := by
  have hwalk := keepInOrder_of_apart hapart (fun _ _ t _ => TermSet.not_mem_empty t)
  exact resolve_eq_ok_iff.mpr ⟨⟨hnodup, hranked⟩, hwalk.symm⟩

/-- The terms of entries whose values all are plain. -/
theorem MappingTerms.ofEntries_of_plain {entries : List Entry} {keys members : TermSet}
    (hkeys : entries.map (fun e => (Term.normalize e.key).text) = keys.toList)
    (hvalues : valuesOf entries = members.toList.map (⟨·, .memberValue⟩)) :
    ofEntries entries = ⟨keys, members⟩ := by
  have hnone : textsOf .keyName entries = [] := by simp [textsOf, hvalues]
  have hall : textsOf .memberValue entries = members.toList := by
    rw [textsOf, List.filter_eq_self.mpr (by simp [hvalues]), hvalues, List.map_map]
    exact List.map_id _
  rw [ofEntries, hnone, hall, hkeys, List.append_nil, MappingTerms.mk.injEq]
  constructor
  · exact TermSet.ext fun t => TermSet.mem_ofList
  · exact TermSet.ext fun t => by simp [TermSet.mem_toList]

/-- **A mapping by itself keeps all its terms if none of its members is among the keys.** -/
theorem resolve_collect_mapping {k m : String} {entries : List Entry} {keys members : TermSet}
    (hterms : MappingTerms.ofEntries entries = ⟨keys, members⟩) (hne : k ≠ m)
    (hapart : ∀ t ∈ keys, t ∉ members) :
    resolve (.collect [.source (.mapping k m entries)]) ⟨[k, m]⟩ =
      .ok [.ofTerms k keys, .ofTerms m members] := by
  have hexact := Candidates.exact_collect [.source (.mapping k m entries)]
  have hroutes : ∀ c t, t ∈ (Candidates.collect [.source (.mapping k m entries)]).terms c ↔
      (c = k ∧ t ∈ keys) ∨ (c = m ∧ t ∈ members) := by
    intro c t
    simp only [hexact.terms, List.mem_singleton, exists_eq_left, Contribution.routes_source_iff,
      Source.routes_mapping_iff, hterms]
  have hkeys : (Candidates.collect [.source (.mapping k m entries)]).terms k = keys :=
    TermSet.ext fun t => by simp [hroutes, hne]
  have hmembers : (Candidates.collect [.source (.mapping k m entries)]).terms m = members :=
    TermSet.ext fun t => by simp [hroutes, hne.symm]
  have hranked : ∀ n ∈ (Candidates.collect [.source (.mapping k m entries)]).names, n ∈ [k, m] := by
    intro n hn
    obtain ⟨s, hs, hn⟩ := (hexact.names n).mp hn
    rw [List.mem_singleton.mp hs] at hn
    exact hn
  have hpair : [k, m].Pairwise (Candidates.collect [.source (.mapping k m entries)]).Apart := by
    refine List.pairwise_pair.mpr ?_
    rw [Candidates.Apart, hkeys, hmembers]
    exact hapart
  rw [resolve_of_apart (by simpa using hne) hranked hpair]
  simp only [List.map_cons, List.map_nil, hkeys, hmembers]

/-! ## 2. What is owned, as candidates -/

/-- Whether some candidates are what categories own.  A category without terms may be left out. -/
structure Candidates.IsOwnedBy (owned : Candidates) (categories : List Category) : Prop where
  names : ∀ n ∈ owned.names, n ∈ categories.map Category.name
  terms : ∀ c ∈ categories, owned.terms c.name = c.terms

/-- What categories own, by their names. -/
def Candidates.ofCategories (categories : List Category) : Candidates :=
  Dictionary.ofList (categories.map (fun c => (c.name, c.terms)))

theorem Candidates.isOwnedBy_ofCategories {categories : List Category}
    (h : (categories.map Category.name).Nodup) : (ofCategories categories).IsOwnedBy categories := by
  have hnames : (categories.map (fun c => (c.name, c.terms))).map Prod.fst =
      categories.map Category.name := List.map_map
  have hperm := Dictionary.perm_entries_ofList (hnames ▸ h)
  constructor
  · intro n hn
    rw [← hnames]
    exact (hperm.map Prod.fst).mem_iff.mp hn
  · intro c hc
    have hentry : (c.name, c.terms) ∈ (ofCategories categories).entries :=
      hperm.mem_iff.mpr (List.mem_map_of_mem hc)
    rw [Candidates.terms, Dictionary.mem_entries_iff.mp hentry]
    rfl

/-- Names of categories that share no term list nothing in common. -/
theorem Candidates.IsOwnedBy.apart {owned : Candidates} {categories : List Category}
    (h : owned.IsOwnedBy categories)
    (hdisjoint : categories.Pairwise (fun c d => ∀ t ∈ c.terms, t ∉ d.terms)) :
    (categories.map Category.name).Pairwise owned.Apart := by
  refine List.pairwise_map.mpr (hdisjoint.imp_of_mem fun hc hd hcd t ht => ?_)
  rw [h.terms _ hc] at ht
  rw [h.terms _ hd]
  exact hcd t ht

/-! ## 3. The second run -/

/-- A rule depends on the name and the terms of its category. -/
theorem dynamicRules_map_ofTerms (categories : List Category) :
    dynamicRules (categories.map (fun c => .ofTerms c.name c.terms)) = dynamicRules categories := by
  induction categories with
  | nil => rfl
  | cons c rest ih =>
    have hrule : (Category.ofTerms c.name c.terms).rule? = c.rule? := rfl
    rw [List.map_cons, dynamicRules, dynamicRules, hrule, ih]

/-- Whether a second run gives the categories of the first one back, in the sequence of its order. -/
structure GivesBack (categories : List Category) (order : Precedence) (again : List Category) :
    Prop where
  /-- There is one category a name, in the order's sequence. -/
  names : again.map Category.name = order.names
  /-- They are those of the first run, each with its terms and nothing else listed for it. -/
  same : again ~ categories.map (fun c => .ofTerms c.name c.terms)
  /-- So a category of the one run has the terms of its namesake in the other. -/
  terms : ∀ c ∈ categories, ∀ d ∈ again, d.name = c.name → d.terms = c.terms
  /-- Nothing is shadowed. -/
  unshadowed : ∀ d ∈ again, d.candidates = d.terms.size ∧ d.shadowed = 0

/-- **Resolving what has been resolved changes nothing, under any order of the same names.**  What the
categories own, taken for candidates, is such an input; and for any such input a second run succeeds,
gives every category its terms back and shadows none.  Under the first order the rules are those of
the first run. -/
theorem resolve_again {cands : Candidates} {order : Precedence} {categories : List Category}
    (h : resolve cands order = .ok categories) :
    (Candidates.ofCategories categories).IsOwnedBy categories ∧
      ∀ owned : Candidates, owned.IsOwnedBy categories →
        (∀ order' : Precedence, order'.names ~ order.names →
          ∃ again, resolve owned order' = .ok again ∧ GivesBack categories order' again) ∧
        ∃ again, resolve owned order = .ok again ∧ assemble again = assemble categories := by
  have hnames := names_of_resolve h
  have hnodup : (categories.map Category.name).Nodup := hnames ▸ (resolve_eq_ok_iff.mp h).1.1
  refine ⟨Candidates.isOwnedBy_ofCategories hnodup, fun owned howned => ?_⟩
  have hapart := howned.apart (pairwise_disjoint_of_resolve h)
  have hsame : (categories.map Category.name).map (fun n => .ofTerms n (owned.terms n)) =
      categories.map (fun c => Category.ofTerms c.name c.terms) := by
    rw [List.map_map]
    refine List.map_congr_left (fun c hc => ?_)
    rw [Function.comp_apply, howned.terms c hc]
  constructor
  · intro order' hperm
    rw [← hnames] at hperm
    refine ⟨_, resolve_of_apart (hperm.nodup_iff.mpr hnodup)
      (fun n hn => hperm.mem_iff.mpr (howned.names n hn))
      ((hperm.pairwise_iff Candidates.Apart.symm).mpr hapart), ?_, ?_, ?_, ?_⟩
    · rw [List.map_map]
      exact List.map_id _
    · rw [← hsame]
      exact hperm.map _
    · intro c hc d hd heq
      obtain ⟨n, -, rfl⟩ := List.mem_map.mp hd
      have hn : n = c.name := heq
      rw [hn]
      exact howned.terms c hc
    · intro d hd
      obtain ⟨n, -, rfl⟩ := List.mem_map.mp hd
      exact ⟨rfl, Nat.sub_self _⟩
  · refine ⟨_, resolve_of_apart (hnames ▸ hnodup) (hnames ▸ howned.names) (hnames ▸ hapart), ?_⟩
    rw [← hnames, hsame, assemble_eq, assemble_eq, dynamicRules_map_ofTerms]

/-- What is owned of the overlapping sets: all of one, a part of two.  The name without candidates is not
listed. -/
def overlappingOwned : Candidates where
  entries := [("a", ⟨[""], by decide⟩), ("b", overlapping.terms "b"), ("c", ⟨["z"], by decide⟩)]
  increasing := by decide

/-- The last name moves to the front, and every category still has its terms. -/
theorem resolve_again_overlapping : ∃ categories again,
    resolve overlapping ⟨["b", "a", "d", "c"]⟩ = .ok categories ∧
      resolve overlappingOwned ⟨["c", "d", "b", "a"]⟩ = .ok again ∧
      again.map (fun c => (c.name, c.terms.toList)) =
        [("c", ["z"]), ("d", []), ("b", ["x", "y"]), ("a", [""])] ∧
      GivesBack categories ⟨["c", "d", "b", "a"]⟩ again := by
  have ha : overlapping.terms "a" = ⟨["", "x"], by decide⟩ := rfl
  have hb : overlapping.terms "b" = ⟨["x", "y"], by decide⟩ := rfl
  have hc : overlapping.terms "c" = ⟨["x", "y", "z"], by decide⟩ := rfl
  have hd : overlapping.terms "d" = ∅ := rfl
  obtain ⟨categories, hok⟩ : ∃ categories,
      resolve overlapping ⟨["b", "a", "d", "c"]⟩ = .ok categories := ⟨_, rfl⟩
  have hkept : categories.map (fun c => (c.name, c.terms.toList)) =
      [("b", ["x", "y"]), ("a", [""]), ("d", []), ("c", ["z"])] := by
    rw [(resolve_eq_ok_iff.mp hok).2]
    simp [keepInOrder, Category.keep, ha, hb, hc, hd]
  have howned : overlappingOwned.IsOwnedBy categories := by
    constructor
    · rw [names_of_resolve hok]
      decide
    · intro c hmem
      have hlists : ∀ p ∈ categories.map (fun c => (c.name, c.terms.toList)),
          (overlappingOwned.terms p.1).toList = p.2 := by
        rw [hkept]
        decide
      have hsame := hlists _ (List.mem_map_of_mem hmem)
      exact TermSet.ext fun t => by rw [← TermSet.mem_toList, hsame, TermSet.mem_toList]
  obtain ⟨again, hagain, hback⟩ :=
    ((resolve_again hok).2 overlappingOwned howned).1 ⟨["c", "d", "b", "a"]⟩ (by decide)
  refine ⟨categories, again, hok, hagain, ?_, hback⟩
  have ha : overlappingOwned.terms "a" = ⟨[""], by decide⟩ := rfl
  have hb : overlappingOwned.terms "b" = ⟨["x", "y"], by decide⟩ := rfl
  have hc : overlappingOwned.terms "c" = ⟨["z"], by decide⟩ := rfl
  have hd : overlappingOwned.terms "d" = ∅ := rfl
  rw [(resolve_eq_ok_iff.mp hagain).2]
  simp [keepInOrder, Category.keep, ha, hb, hc, hd]

end KeywordGrammar
