/-
# Who owns a term

Going down the order, `keepInOrder` remembers one set: what the names so far have listed.  The
invariant of that walk is `claimedBy`, the union of the full candidate sets of the names that were
passed, and not of what those names kept.  That is why a term shadowed once stays shadowed, and why
its owner can be read off the order and the candidates alone: it is the first name that lists it
(`IsFirst`, `mem_terms_resolve_iff`).

`Divides` says what this amounts to for all categories together: they come in the order's sequence,
they are pairwise disjoint, they miss no candidate term, and each term goes to the highest rank that
lists it.
-/
import KeywordGrammar.Category
import Mathlib.Data.List.Nodup

namespace KeywordGrammar

/-! ## 1. The first name with a property -/

/-- Whether `name` is the first of some names with a property. -/
def IsFirst (names : List String) (holds : String → Prop) (name : String) : Prop :=
  ∃ above below, names = above ++ name :: below ∧ holds name ∧ ∀ n ∈ above, ¬ holds n

namespace IsFirst

variable {names : List String} {holds holds' : String → Prop} {name m : String}

theorem mem (h : IsFirst names holds name) : name ∈ names := by
  obtain ⟨above, below, rfl, -, -⟩ := h
  simp

theorem congr (h : ∀ n, holds n ↔ holds' n) : IsFirst names holds name ↔ IsFirst names holds' name := by
  simp only [IsFirst, h]

theorem not_nil : ¬ IsFirst [] holds name := fun h => List.not_mem_nil h.mem

theorem cons_iff {n : String} {rest : List String} : IsFirst (n :: rest) holds name ↔
    (name = n ∧ holds n) ∨ (¬ holds n ∧ IsFirst rest holds name) := by
  constructor
  · rintro ⟨above, below, heq, hname, habove⟩
    cases above with
    | nil =>
      simp only [List.nil_append, List.cons.injEq] at heq
      obtain ⟨rfl, -⟩ := heq
      exact .inl ⟨rfl, hname⟩
    | cons a above =>
      simp only [List.cons_append, List.cons.injEq] at heq
      obtain ⟨rfl, rfl⟩ := heq
      have hrest : ∀ n ∈ above, ¬ holds n := fun n hn => habove n (List.mem_cons_of_mem _ hn)
      exact .inr ⟨habove n (by simp), above, below, rfl, hname, hrest⟩
  · rintro (⟨rfl, hname⟩ | ⟨hn, above, below, rfl, hname, habove⟩)
    · exact ⟨[], rest, rfl, hname, by simp⟩
    · exact ⟨n :: above, below, rfl, hname, by simpa [hn] using habove⟩

/-- There is at most one first name. -/
theorem unique (h : IsFirst names holds name) (h' : IsFirst names holds m) : name = m := by
  induction names with
  | nil => exact absurd h not_nil
  | cons n rest ih =>
    rcases cons_iff.mp h with ⟨rfl, hn⟩ | ⟨hn, hrest⟩
    · rcases cons_iff.mp h' with ⟨rfl, -⟩ | ⟨hn', -⟩
      · rfl
      · exact absurd hn hn'
    · rcases cons_iff.mp h' with ⟨rfl, hn'⟩ | ⟨-, hrest'⟩
      · exact absurd hn' hn
      · exact ih hrest hrest'

/-- If some name has the property, then there is a first one. -/
theorem exists_of_mem : ∀ {names : List String} {m : String}, m ∈ names → holds m →
    ∃ name, IsFirst names holds name
  | [], _, hm, _ => absurd hm List.not_mem_nil
  | n :: rest, m, hm, hholds => by
    by_cases hn : holds n
    · exact ⟨n, cons_iff.mpr (.inl ⟨rfl, hn⟩)⟩
    · rcases List.mem_cons.mp hm with rfl | hrest
      · exact absurd hholds hn
      · obtain ⟨name, hname⟩ := exists_of_mem hrest hholds
        exact ⟨name, cons_iff.mpr (.inr ⟨hn, hname⟩)⟩

/-- No name below one that has the property is the first. -/
theorem mem_of_holds {above below : List String} (hm : holds m)
    (h : IsFirst (above ++ m :: below) holds name) : name ∈ above ++ [m] := by
  induction above with
  | nil =>
    rcases cons_iff.mp h with ⟨rfl, -⟩ | ⟨hn, -⟩
    · exact List.mem_singleton_self _
    · exact absurd hm hn
  | cons n above ih =>
    rcases cons_iff.mp h with ⟨rfl, -⟩ | ⟨-, hrest⟩
    · exact List.mem_cons_self
    · exact List.mem_cons_of_mem n (ih hrest)

/-- No name with the property has a smaller rank than the first. -/
theorem rank_le {order : Precedence} (h : IsFirst order.names holds name) :
    ∃ r, order.rank name = some r ∧ ∀ n s, holds n → order.rank n = some s → r ≤ s := by
  obtain ⟨above, below, heq, hname, habove⟩ := h
  have hnot : name ∉ above := fun hin => habove name hin hname
  refine ⟨above.length, ?_, ?_⟩
  · rw [Precedence.rank, heq, List.idxOf?_eq_some_iff]
    refine ⟨by simp, by simp, ?_⟩
    intro j hj hj'
    rw [List.getElem_append_left hj] at hj'
    exact hnot (hj' ▸ List.getElem_mem hj)
  · intro n s hn hs
    rw [Precedence.rank, heq, List.idxOf?_eq_some_iff] at hs
    obtain ⟨hlt, hget, -⟩ := hs
    by_cases hs' : s < above.length
    · rw [List.getElem_append_left hs'] at hget
      exact absurd hn (habove n (hget ▸ List.getElem_mem hs'))
    · omega

end IsFirst

/-! ## 2. The walk down the order -/

namespace Candidates

/-- A term is listed for a name iff the entry of that name holds it. -/
theorem mem_terms_iff {cands : Candidates} {n t : String} :
    t ∈ cands.terms n ↔ ∃ s, (n, s) ∈ cands.entries ∧ t ∈ s := by
  simp only [Dictionary.mem_entries_iff, terms]
  cases cands.get? n with
  | none => simp
  | some s => simp

/-- What is claimed when some names have been passed: their whole candidate sets. -/
def claimedBy (cands : Candidates) (claimed : TermSet) (names : List String) : TermSet :=
  names.foldl (fun s n => s ∪ cands.terms n) claimed

theorem mem_claimedBy {cands : Candidates} {t : String} : ∀ {names : List String} {claimed : TermSet},
    t ∈ cands.claimedBy claimed names ↔ t ∈ claimed ∨ ∃ n ∈ names, t ∈ cands.terms n
  | [], _ => by simp [claimedBy]
  | n :: rest, claimed => by
    have ih : t ∈ cands.claimedBy (claimed ∪ cands.terms n) rest ↔
        t ∈ claimed ∪ cands.terms n ∨ ∃ m ∈ rest, t ∈ cands.terms m := mem_claimedBy
    simp only [claimedBy, List.foldl_cons] at ih ⊢
    rw [ih, TermSet.mem_union]
    simp [or_assoc]

end Candidates

/-- **The invariant of the walk.**  At each place stands the category that keeps, of what is listed
for its name, all that no name above it lists. -/
theorem getElem?_keepInOrder (cands : Candidates) : ∀ (names : List String) (claimed : TermSet) (i : Nat),
    (keepInOrder cands claimed names)[i]? = names[i]?.map (fun n =>
      Category.keep n (cands.terms n) (cands.claimedBy claimed (names.take i)))
  | [], _, _ => by simp [keepInOrder]
  | n :: rest, claimed, 0 => by simp [keepInOrder, Candidates.claimedBy]
  | n :: rest, claimed, i + 1 => by
    simp [keepInOrder, Candidates.claimedBy,
      getElem?_keepInOrder cands rest (claimed ∪ cands.terms n) i]

theorem name_of_getElem?_keepInOrder {cands : Candidates} {names : List String} {claimed : TermSet}
    {i : Nat} {c : Category} (h : (keepInOrder cands claimed names)[i]? = some c) :
    names[i]? = some c.name := by
  rw [getElem?_keepInOrder, Option.map_eq_some_iff] at h
  obtain ⟨n, hn, rfl⟩ := h
  exact hn

/-- What is kept at a place. -/
theorem mem_terms_keepInOrder {cands : Candidates} {names : List String} {i : Nat} {c : Category}
    (h : (keepInOrder cands ∅ names)[i]? = some c) (t : String) :
    t ∈ c.terms ↔ t ∈ cands.terms c.name ∧ ∀ n ∈ names.take i, t ∉ cands.terms n := by
  rw [getElem?_keepInOrder, Option.map_eq_some_iff] at h
  obtain ⟨n, -, rfl⟩ := h
  simp [Category.keep, Candidates.mem_claimedBy]

/-- Where no name is repeated, what is kept is what no name above lists and nobody has claimed. -/
theorem mem_terms_iff_isFirst {cands : Candidates} {c : Category} {t : String} :
    ∀ {names : List String} {claimed : TermSet}, names.Nodup →
      c ∈ keepInOrder cands claimed names →
      (t ∈ c.terms ↔ t ∉ claimed ∧ IsFirst names (fun n => t ∈ cands.terms n) c.name)
  | [], _, _, hc => absurd hc List.not_mem_nil
  | n :: rest, claimed, hnodup, hc => by
    obtain ⟨hn, hrest⟩ := List.nodup_cons.mp hnodup
    rw [IsFirst.cons_iff]
    rcases List.mem_cons.mp hc with rfl | hc
    · have hnot : ¬ IsFirst rest (fun m => t ∈ cands.terms m) n := fun hfirst => hn hfirst.mem
      simp [Category.keep, hnot, and_comm]
    · have hmem : c.name ∈ rest := by
        rw [← map_name_keepInOrder cands (claimed ∪ cands.terms n) rest]
        exact List.mem_map_of_mem hc
      have hne : c.name ≠ n := fun he => hn (he ▸ hmem)
      rw [mem_terms_iff_isFirst hrest hc, TermSet.mem_union]
      simp [hne, and_assoc]

/-! ## 3. When an order can rank the candidates -/

theorem Precedence.fault?_eq_none_iff {order : Precedence} {cands : Candidates} :
    order.fault? cands = none ↔ order.names.Nodup ∧ ∀ n ∈ cands.names, n ∈ order.names := by
  have hrepeated : firstRepeated [] order.names = none ↔ order.names.Nodup := by
    simp [firstRepeated_eq_none_iff]
  unfold fault?
  cases hfirst : firstRepeated [] order.names with
  | some c =>
    have hnot : ¬ order.names.Nodup := by simp [← hrepeated, hfirst]
    simp [hnot]
  | none =>
    have hnodup : order.names.Nodup := hrepeated.mp hfirst
    simp [hnodup]

theorem resolve_eq_ok_iff {cands : Candidates} {order : Precedence} {categories : List Category} :
    resolve cands order = .ok categories ↔
      (order.names.Nodup ∧ ∀ n ∈ cands.names, n ∈ order.names) ∧
        categories = keepInOrder cands ∅ order.names := by
  rw [← Precedence.fault?_eq_none_iff]
  unfold resolve
  cases order.fault? cands with
  | some fault => simp
  | none => simp [eq_comm]

/-! ## 4. Ownership -/

section Resolved

variable {cands : Candidates} {order : Precedence} {categories : List Category}

theorem names_of_resolve (h : resolve cands order = .ok categories) :
    categories.map Category.name = order.names := by
  obtain ⟨-, rfl⟩ := resolve_eq_ok_iff.mp h
  exact map_name_keepInOrder cands ∅ order.names

/-- **A category owns a term iff it is the first name of the order that lists it.** -/
theorem mem_terms_resolve_iff (h : resolve cands order = .ok categories) {c : Category}
    (hc : c ∈ categories) (t : String) :
    t ∈ c.terms ↔ IsFirst order.names (fun n => t ∈ cands.terms n) c.name := by
  obtain ⟨⟨hnodup, -⟩, rfl⟩ := resolve_eq_ok_iff.mp h
  rw [mem_terms_iff_isFirst hnodup hc]
  simp

/-- A name under which something is listed is ranked. -/
theorem mem_names_of_resolve (h : resolve cands order = .ok categories) {n t : String}
    (ht : t ∈ cands.terms n) : n ∈ order.names := by
  obtain ⟨⟨-, hranked⟩, -⟩ := resolve_eq_ok_iff.mp h
  obtain ⟨s, hs, -⟩ := Candidates.mem_terms_iff.mp ht
  exact hranked n (List.mem_map_of_mem hs)

/-- Every listed term has an owner. -/
theorem exists_owner (h : resolve cands order = .ok categories) {n t : String}
    (ht : t ∈ cands.terms n) :
    ∃ c ∈ categories, IsFirst order.names (fun m => t ∈ cands.terms m) c.name := by
  obtain ⟨m, hm⟩ : ∃ m, IsFirst order.names (fun m => t ∈ cands.terms m) m :=
    IsFirst.exists_of_mem (mem_names_of_resolve h ht) ht
  have hmem := hm.mem
  rw [← names_of_resolve h] at hmem
  obtain ⟨c, hc, rfl⟩ := List.mem_map.mp hmem
  exact ⟨c, hc, hm⟩

/-- What a category owns is listed for its name. -/
theorem listed_of_mem_terms (h : resolve cands order = .ok categories) {c : Category}
    (hc : c ∈ categories) {t : String} (ht : t ∈ c.terms) : t ∈ cands.terms c.name := by
  obtain ⟨-, -, -, hlists, -⟩ := (mem_terms_resolve_iff h hc t).mp ht
  exact hlists

/-- What is listed for a name is owned by some category. -/
theorem exists_mem_terms_of_resolve (h : resolve cands order = .ok categories) {n t : String}
    (ht : t ∈ cands.terms n) : ∃ c ∈ categories, t ∈ c.terms := by
  obtain ⟨c, hc, hfirst⟩ := exists_owner h ht
  exact ⟨c, hc, (mem_terms_resolve_iff h hc t).mpr hfirst⟩

/-- No two categories of the sequence share a term. -/
theorem pairwise_disjoint_of_resolve (h : resolve cands order = .ok categories) :
    categories.Pairwise (fun c d => ∀ t ∈ c.terms, t ∉ d.terms) := by
  obtain ⟨-, rfl⟩ := resolve_eq_ok_iff.mp h
  rw [List.pairwise_iff_getElem]
  intro i j hi hj hij t htc htd
  have hci := List.getElem?_eq_getElem hi
  have hcj := List.getElem?_eq_getElem hj
  have hlists := ((mem_terms_keepInOrder hci t).mp htc).1
  have hunclaimed := ((mem_terms_keepInOrder hcj t).mp htd).2
  -- the earlier name is one of those that the later category has to leave alone
  obtain ⟨hlt, hname⟩ := List.getElem?_eq_some_iff.mp (name_of_getElem?_keepInOrder hci)
  have habove : ((keepInOrder cands ∅ order.names)[i]).name ∈ order.names.take j :=
    List.mem_take_iff_getElem.mpr ⟨i, by omega, hname⟩
  exact hunclaimed _ habove hlists

/-- A term has one owner only. -/
theorem eq_of_mem_terms (h : resolve cands order = .ok categories) {c d : Category}
    (hc : c ∈ categories) (hd : d ∈ categories) {t : String} (htc : t ∈ c.terms)
    (htd : t ∈ d.terms) : d = c := by
  have hnodup : (categories.map Category.name).Nodup := by
    rw [names_of_resolve h]
    exact (resolve_eq_ok_iff.mp h).1.1
  have hfirstc := (mem_terms_resolve_iff h hc t).mp htc
  have hfirstd := (mem_terms_resolve_iff h hd t).mp htd
  exact List.inj_on_of_nodup_map hnodup hd hc (hfirstd.unique hfirstc)

end Resolved

/-! ## 5. All categories together -/

/-- Some categories divide the candidate terms among the names of an order. -/
structure Divides (cands : Candidates) (order : Precedence) (categories : List Category) : Prop where
  /-- There is one category a name, in the order's sequence. -/
  names : categories.map Category.name = order.names
  /-- A category keeps what is listed for it, less all that is listed for the names above it. -/
  keeps : ∀ i c, categories[i]? = some c → ∀ t,
    t ∈ c.terms ↔ t ∈ cands.terms c.name ∧ ∀ n ∈ order.names.take i, t ∉ cands.terms n
  /-- No two of them share a term. -/
  disjoint : categories.Pairwise (fun c d => ∀ t ∈ c.terms, t ∉ d.terms)
  /-- Together they hold the candidate terms and no others. -/
  covers : ∀ t, (∃ c ∈ categories, t ∈ c.terms) ↔ ∃ e ∈ cands.entries, t ∈ e.2
  /-- A candidate term is in one of them only, which has the smallest rank of all that list it. -/
  owner : ∀ e ∈ cands.entries, ∀ t ∈ e.2, ∃ c ∈ categories, t ∈ c.terms ∧
    (∀ d ∈ categories, t ∈ d.terms → d = c) ∧
      ∃ r, order.rank c.name = some r ∧
        ∀ n s, t ∈ cands.terms n → order.rank n = some s → r ≤ s

/-- **Resolving divides the candidate terms by the first name that lists them.** -/
theorem resolve_divides {cands : Candidates} {order : Precedence} {categories : List Category}
    (h : resolve cands order = .ok categories) : Divides cands order categories := by
  have hdisjoint := pairwise_disjoint_of_resolve h
  refine ⟨names_of_resolve h, ?_, hdisjoint, ?_, ?_⟩
  · intro i c hi t
    obtain ⟨-, rfl⟩ := resolve_eq_ok_iff.mp h
    exact mem_terms_keepInOrder hi t
  · intro t
    constructor
    · rintro ⟨c, hc, ht⟩
      obtain ⟨i, hi⟩ := List.getElem?_of_mem hc
      obtain ⟨-, rfl⟩ := resolve_eq_ok_iff.mp h
      obtain ⟨s, hs, hts⟩ := Candidates.mem_terms_iff.mp ((mem_terms_keepInOrder hi t).mp ht).1
      exact ⟨_, hs, hts⟩
    · rintro ⟨⟨n, s⟩, hs, hts⟩
      obtain ⟨c, hc, hfirst⟩ := exists_owner h (Candidates.mem_terms_iff.mpr ⟨s, hs, hts⟩)
      exact ⟨c, hc, (mem_terms_resolve_iff h hc t).mpr hfirst⟩
  · rintro ⟨n, s⟩ hs t hts
    obtain ⟨c, hc, hfirst⟩ := exists_owner h (Candidates.mem_terms_iff.mpr ⟨s, hs, hts⟩)
    have ht : t ∈ c.terms := (mem_terms_resolve_iff h hc t).mpr hfirst
    obtain ⟨r, hr, hle⟩ := hfirst.rank_le
    exact ⟨c, hc, ht, fun d hd htd => eq_of_mem_terms h hc hd ht htd, r, hr, hle⟩

/-- Three sets that overlap, one of them with the empty term. -/
def overlapping : Candidates where
  entries := [("a", ⟨["", "x"], by decide⟩), ("b", ⟨["x", "y"], by decide⟩),
    ("c", ⟨["x", "y", "z"], by decide⟩)]
  increasing := by decide

/-- `x` is shadowed twice, and a name without candidates has an empty category. -/
theorem resolve_divides_overlapping : ∃ categories,
    resolve overlapping ⟨["b", "a", "d", "c"]⟩ = .ok categories ∧
      categories.map (fun c => (c.name, c.terms.toList)) =
        [("b", ["x", "y"]), ("a", [""]), ("d", []), ("c", ["z"])] ∧
      Divides overlapping ⟨["b", "a", "d", "c"]⟩ categories := by
  have ha : overlapping.terms "a" = ⟨["", "x"], by decide⟩ := rfl
  have hb : overlapping.terms "b" = ⟨["x", "y"], by decide⟩ := rfl
  have hc : overlapping.terms "c" = ⟨["x", "y", "z"], by decide⟩ := rfl
  have hd : overlapping.terms "d" = ∅ := rfl
  refine ⟨_, rfl, ?_, resolve_divides rfl⟩
  simp [keepInOrder, Category.keep, ha, hb, hc, hd]

end KeywordGrammar
