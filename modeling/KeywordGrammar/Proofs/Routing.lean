/-
# What a run of contributions routes where

`Candidates.collect` merges sets step by step, and a mapping moves terms between its keys, its marked
values and its members before they are merged.  Here the outcome is said without any of these sets:
`Contribution.Routes` lists the ways in which a term of one contribution gets to a category, and
`Candidates.Exact` says that a category exists iff some step named it and holds a term iff some step
routes it there.

The exclusion of marked values is the one rule that looks beyond a single raw term.  It looks at all
entries of one source and at nothing else, so `Marks` is a property of the entries of that source
alone; that is why the invariant splits into one fact a step (`Candidates.Exact.step`), and a run
follows by induction (`Candidates.Exact.run`).
-/
import KeywordGrammar.Candidates

namespace KeywordGrammar

open Unicode

/-! ## 1. Raw terms -/

namespace Term

/-- A raw term without one exclusion mark in front. -/
def withoutMark (raw : String) : String :=
  if isMarked raw then String.ofList raw.toList.tail else raw

/-- A raw term is compared in lowercase, without its mark. -/
theorem text_normalize (raw : String) : (normalize raw).text = lower (withoutMark raw) := by
  unfold normalize withoutMark
  split <;> rfl

theorem normalize_eq_keyName_iff {raw t : String} :
    normalize raw = ⟨t, .keyName⟩ ↔ isMarked raw = true ∧ lower (withoutMark raw) = t := by
  rw [← text_normalize]
  constructor
  · intro h
    have hr := role_normalize raw
    rw [h] at hr
    refine ⟨?_, by rw [h]⟩
    by_cases hm : isMarked raw = true
    · exact hm
    · simp [hm] at hr
  · rintro ⟨hm, rfl⟩
    simp [normalize, hm]

theorem normalize_eq_memberValue_iff {raw t : String} :
    normalize raw = ⟨t, .memberValue⟩ ↔ isMarked raw = false ∧ lower raw = t := by
  by_cases hm : isMarked raw = true
  · simp [normalize, hm]
  · simp [normalize, hm]

end Term

/-! ## 2. The ways to a category -/

/-- Whether some value of the entries carries the mark and names `t`. -/
def Marks (entries : List Entry) (t : String) : Prop :=
  ∃ e ∈ entries, ∃ v ∈ e.values, Term.isMarked v = true ∧ lower (Term.withoutMark v) = t

/-- The ways in which a source routes a term to a category. -/
inductive Source.Routes : Source → String → String → Prop where
  | line {c raw : String} {lines : List String} :
      raw ∈ lines → Routes (.list c lines) c (lower raw)
  | key {k m : String} {entries : List Entry} {e : Entry} :
      e ∈ entries → Routes (.mapping k m entries) k (lower (Term.withoutMark e.key))
  | marked {k m t : String} {entries : List Entry} :
      Marks entries t → Routes (.mapping k m entries) k t
  | plain {k m v : String} {entries : List Entry} {e : Entry} :
      e ∈ entries → v ∈ e.values → Term.isMarked v = false → ¬ Marks entries (lower v) →
        Routes (.mapping k m entries) m (lower v)

/-- The ways in which a contribution routes a term to a category. -/
inductive Contribution.Routes : Contribution → String → String → Prop where
  | source {s : Source} {c t : String} : s.Routes c t → Routes (.source s) c t
  | extra {c raw : String} {terms : List String} :
      raw ∈ terms → Routes (.extra c terms) c (lower raw)

/-- The categories that a source names, be it without any term for them. -/
def Source.categories : Source → List String
  | .list c _ => [c]
  | .mapping k m _ => [k, m]

/-- The categories that a contribution names. -/
def Contribution.categories : Contribution → List String
  | .source s => s.categories
  | .extra c _ => [c]

theorem Source.routes_list_iff {c c' t : String} {lines : List String} :
    (Source.list c' lines).Routes c t ↔ c = c' ∧ ∃ raw ∈ lines, lower raw = t := by
  constructor
  · intro h
    cases h with
    | line hraw => exact ⟨rfl, _, hraw, rfl⟩
  · rintro ⟨rfl, raw, hraw, rfl⟩
    exact .line hraw

theorem Source.routes_mapping_iff {k m c t : String} {entries : List Entry} :
    (Source.mapping k m entries).Routes c t ↔
      (c = k ∧ t ∈ (MappingTerms.ofEntries entries).keys) ∨
        (c = m ∧ t ∈ (MappingTerms.ofEntries entries).members) := by
  simp only [MappingTerms.mem_keys_ofEntries, MappingTerms.mem_members_ofEntries,
    Term.text_normalize, Term.normalize_eq_keyName_iff, Term.normalize_eq_memberValue_iff]
  constructor
  · intro h
    cases h with
    | key he => exact .inl ⟨rfl, .inl ⟨_, he, rfl⟩⟩
    | marked hm => exact .inl ⟨rfl, .inr hm⟩
    | plain he hv hp hm => exact .inr ⟨rfl, ⟨_, he, _, hv, hp, rfl⟩, hm⟩
  · rintro (⟨rfl, ⟨e, he, rfl⟩ | hm⟩ | ⟨rfl, ⟨e, he, v, hv, hp, rfl⟩, hm⟩)
    · exact .key he
    · exact .marked hm
    · exact .plain he hv hp hm

theorem Contribution.routes_extra_iff {c c' t : String} {terms : List String} :
    (Contribution.extra c' terms).Routes c t ↔ c = c' ∧ ∃ raw ∈ terms, lower raw = t := by
  constructor
  · intro h
    cases h with
    | extra hraw => exact ⟨rfl, _, hraw, rfl⟩
  · rintro ⟨rfl, raw, hraw, rfl⟩
    exact .extra hraw

theorem Contribution.routes_source_iff {s : Source} {c t : String} :
    (Contribution.source s).Routes c t ↔ s.Routes c t := by
  constructor
  · intro h
    cases h with
    | source hs => exact hs
  · exact .source

/-- A value of a mapping, marked or not, gets to one of its two categories. -/
theorem Source.routes_value {k m v : String} {entries : List Entry} {e : Entry} (he : e ∈ entries)
    (hv : v ∈ e.values) : ∃ c ∈ [k, m],
      (Source.mapping k m entries).Routes c (lower (Term.withoutMark v)) := by
  -- a plain value that is marked elsewhere goes with the keys
  by_cases hm : Marks entries (lower (Term.withoutMark v))
  · exact ⟨k, List.mem_cons_self, .marked hm⟩
  · have hp : Term.isMarked v = false := by
      by_cases hp : Term.isMarked v = true
      · exact absurd ⟨e, he, v, hv, hp, rfl⟩ hm
      · simpa using hp
    have hbare : Term.withoutMark v = v := by simp [Term.withoutMark, hp]
    rw [hbare] at hm ⊢
    exact ⟨m, List.mem_cons_of_mem k List.mem_cons_self, .plain he hv hp hm⟩

/-! ## 3. One step -/

namespace Candidates

/-- A step names its own categories and no others. -/
theorem names_contribute {cands : Candidates} {s : Contribution} {c : String} :
    c ∈ (cands.contribute s).names ↔ c ∈ cands.names ∨ c ∈ s.categories := by
  match s with
  | .source (.list c' lines) =>
    simp [contribute, addSource, names_add, Contribution.categories, Source.categories, or_comm]
  | .source (.mapping k m entries) =>
    simp only [contribute, addSource, names_add, Contribution.categories, Source.categories,
      List.mem_cons, List.not_mem_nil, or_false]
    rw [← or_assoc, or_comm (a := c = m), or_comm]
  | .extra c' terms =>
    simp [contribute, addExtra, names_add, Contribution.categories, or_comm]

/-- A step adds what it routes and takes nothing away. -/
theorem mem_terms_contribute {cands : Candidates} {s : Contribution} {c t : String} :
    t ∈ (cands.contribute s).terms c ↔ t ∈ cands.terms c ∨ s.Routes c t := by
  match s with
  | .source (.list c' lines) =>
    simp [contribute, addSource, mem_terms_add, Contribution.routes_source_iff,
      Source.routes_list_iff, or_comm]
  | .source (.mapping k m entries) =>
    simp only [contribute, addSource, mem_terms_add, Contribution.routes_source_iff,
      Source.routes_mapping_iff]
    rw [← or_assoc, or_comm (a := c = m ∧ _), or_comm]
  | .extra c' terms =>
    simp [contribute, addExtra, mem_terms_add, Contribution.routes_extra_iff, or_comm]

/-! ## 4. Whole runs -/

/-- The candidates are exactly what the steps so far amount to. -/
structure Exact (cands : Candidates) (steps : List Contribution) : Prop where
  names : ∀ c, c ∈ cands.names ↔ ∃ s ∈ steps, c ∈ s.categories
  terms : ∀ c t, t ∈ cands.terms c ↔ ∃ s ∈ steps, s.Routes c t

namespace Exact

variable {cands : Candidates} {done : List Contribution}

theorem empty : Exact ∅ [] := by
  constructor
  · intro c
    simp only [List.not_mem_nil, false_and, exists_false, iff_false]
    exact List.not_mem_nil
  · intro c t
    simp only [List.not_mem_nil, false_and, exists_false, iff_false]
    exact TermSet.not_mem_empty t

/-- **One step keeps the candidates exact.**  Nothing that an earlier step routed is taken away: the
values that a mapping excludes are excluded before anything is merged. -/
theorem step (h : cands.Exact done) (s : Contribution) :
    (cands.contribute s).Exact (done ++ [s]) := by
  constructor
  · intro c
    rw [names_contribute, h.names]
    simp [or_and_right, exists_or]
  · intro c t
    rw [mem_terms_contribute, h.terms]
    simp [or_and_right, exists_or]

/-- A whole run keeps the candidates exact. -/
theorem run (h : cands.Exact done) (steps : List Contribution) :
    (steps.foldl contribute cands).Exact (done ++ steps) := by
  induction steps generalizing cands done with
  | nil => simpa using h
  | cons s steps ih =>
    have hnext := ih (h.step s)
    rw [List.append_assoc] at hnext
    exact hnext

end Exact

/-- What is collected is exactly what the contributions amount to. -/
theorem exact_collect (steps : List Contribution) : (collect steps).Exact steps :=
  Exact.empty.run steps

/-- **Exact candidates after every step.**  After each beginning of a sequence of contributions a
category exists iff a step so far named it and holds a term iff a step so far routes it there.  So a
plain value stays a member as long as its own source does not mark it, whatever other sources mark
and whether or not it is a key; and where both categories of a mapping are the same, that category
receives every key and every value. -/
theorem exact_after_every_step (steps : List Contribution) (n : Nat) :
    (collect (steps.take n)).Exact (steps.take n) ∧
      (∀ k m entries, .source (.mapping k m entries) ∈ steps.take n →
        ∀ e ∈ entries, ∀ v ∈ e.values, Term.isMarked v = false → ¬ Marks entries (lower v) →
          lower v ∈ (collect (steps.take n)).terms m) ∧
      ∀ k entries, .source (.mapping k k entries) ∈ steps.take n → ∀ e ∈ entries,
        lower (Term.withoutMark e.key) ∈ (collect (steps.take n)).terms k ∧
          ∀ v ∈ e.values, lower (Term.withoutMark v) ∈ (collect (steps.take n)).terms k := by
  have hexact := exact_collect (steps.take n)
  refine ⟨hexact, ?_, ?_⟩
  · intro k m entries hs e he v hv hp hm
    exact (hexact.terms m _).mpr ⟨_, hs, .source (.plain he hv hp hm)⟩
  · intro k entries hs e he
    refine ⟨(hexact.terms k _).mpr ⟨_, hs, .source (.key he)⟩, ?_⟩
    intro v hv
    refine (hexact.terms k _).mpr ⟨_, hs, .source ?_⟩
    -- a plain value that is marked elsewhere gets to the category on the keys' side
    by_cases hm : Marks entries (lower (Term.withoutMark v))
    · exact .marked hm
    · have hp : Term.isMarked v = false := by
        by_cases hp : Term.isMarked v = true
        · exact absurd ⟨e, he, v, hv, hp, rfl⟩ hm
        · simpa using hp
      have hbare : Term.withoutMark v = v := by simp [Term.withoutMark, hp]
      rw [hbare] at hm ⊢
      exact .plain he hv hp hm

end Candidates

end KeywordGrammar
