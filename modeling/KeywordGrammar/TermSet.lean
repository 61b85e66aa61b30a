/-
# Sets of terms

A set of terms is held as the strictly increasing list of its members.  The order is that of the
characters' code points, which is also the order of the UTF-8 bytes, and it is the order in which a
category's terms become the branches of its rule.  Since a set has one such list only, two sets with
the same members are equal.
-/

namespace KeywordGrammar

/-! ## 1. Strictly increasing lists of names -/

/-- Leaves out the repetitions of a list whose equal entries stand together. -/
def dropRepeats : List String → List String
  | [] => []
  | [x] => [x]
  | x :: y :: rest => if x = y then dropRepeats (y :: rest) else x :: dropRepeats (y :: rest)

theorem mem_dropRepeats {t : String} : ∀ {l : List String}, t ∈ dropRepeats l ↔ t ∈ l
  | [] => by simp [dropRepeats]
  | [x] => by simp [dropRepeats]
  | x :: y :: rest => by
    have ih := mem_dropRepeats (t := t) (l := y :: rest)
    simp only [dropRepeats]
    split
    · rename_i h
      rw [ih, h]
      simp
    · rw [List.mem_cons, ih, List.mem_cons (a := t) (b := x)]

theorem pairwise_dropRepeats : ∀ {l : List String},
    l.Pairwise (· ≤ ·) → (dropRepeats l).Pairwise (· < ·)
  | [], _ => by simp [dropRepeats]
  | [x], _ => by simp [dropRepeats]
  | x :: y :: rest, h => by
    have htail := (List.pairwise_cons.mp h).2
    have ih := pairwise_dropRepeats htail
    simp only [dropRepeats]
    split
    · exact ih
    · rename_i hne
      refine List.pairwise_cons.mpr ⟨fun t ht => ?_, ih⟩
      have hxy : x ≤ y := (List.pairwise_cons.mp h).1 y (by simp)
      have hyt : y ≤ t := by
        rcases List.mem_cons.mp (mem_dropRepeats.mp ht) with rfl | hin
        · exact String.le_refl t
        · exact (List.pairwise_cons.mp htail).1 t hin
      rcases Std.lt_trichotomy x t with hlt | heq | hgt
      · exact hlt
      · subst heq
        exact absurd (String.le_antisymm hxy hyt) hne
      · exact absurd (String.le_trans hxy hyt) (String.not_le.mpr hgt)

/-- Two strictly increasing lists with the same members are equal. -/
theorem eq_of_pairwise_lt : ∀ {l₁ l₂ : List String}, l₁.Pairwise (· < ·) → l₂.Pairwise (· < ·) →
    (∀ t, t ∈ l₁ ↔ t ∈ l₂) → l₁ = l₂
  | [], [], _, _, _ => rfl
  | [], y :: _, _, _, h => absurd ((h y).mpr (by simp)) (by simp)
  | x :: _, [], _, _, h => absurd ((h x).mp (by simp)) (by simp)
  | x :: xs, y :: ys, h₁, h₂, h => by
    obtain ⟨hx, hxs⟩ := List.pairwise_cons.mp h₁
    obtain ⟨hy, hys⟩ := List.pairwise_cons.mp h₂
    have hxy : x = y := by
      rcases List.mem_cons.mp ((h x).mp (by simp)) with he | hin
      · exact he
      · rcases List.mem_cons.mp ((h y).mpr (by simp)) with he | hin'
        · exact he.symm
        · exact absurd (hx y hin') (String.lt_asymm (hy x hin))
    subst hxy
    have htail : ∀ t, t ∈ xs ↔ t ∈ ys := fun t => by
      constructor
      · intro ht
        rcases List.mem_cons.mp ((h t).mp (List.mem_cons_of_mem _ ht)) with he | hin
        · exact absurd (hx t ht) (he ▸ String.lt_irrefl t)
        · exact hin
      · intro ht
        rcases List.mem_cons.mp ((h t).mpr (List.mem_cons_of_mem _ ht)) with he | hin
        · exact absurd (hy t ht) (he ▸ String.lt_irrefl t)
        · exact hin
    rw [eq_of_pairwise_lt hxs hys htail]

/-! ## 2. The type -/

/-- A finite set of terms. -/
structure TermSet where
  toList : List String
  increasing : toList.Pairwise (· < ·)

namespace TermSet

instance : DecidableEq TermSet := fun s t =>
  if h : s.toList = t.toList then .isTrue (by cases s; cases t; simp_all)
  else .isFalse (fun he => h (he ▸ rfl))

instance : Membership String TermSet := ⟨fun s t => t ∈ s.toList⟩

instance (t : String) (s : TermSet) : Decidable (t ∈ s) :=
  inferInstanceAs (Decidable (t ∈ s.toList))

theorem mem_toList {t : String} {s : TermSet} : t ∈ s.toList ↔ t ∈ s := Iff.rfl

@[simp] theorem mem_mk {t : String} {l : List String} {h : l.Pairwise (· < ·)} :
    t ∈ (⟨l, h⟩ : TermSet) ↔ t ∈ l := Iff.rfl

/-- Sets with the same members are equal. -/
theorem ext {s₁ s₂ : TermSet} (h : ∀ t, t ∈ s₁ ↔ t ∈ s₂) : s₁ = s₂ := by
  have hl : s₁.toList = s₂.toList := eq_of_pairwise_lt s₁.increasing s₂.increasing h
  cases s₁; cases s₂; simp_all

/-- No member is listed twice. -/
theorem nodup_toList (s : TermSet) : s.toList.Nodup := by
  refine s.increasing.imp (fun hlt heq => ?_)
  exact String.lt_irrefl _ (heq ▸ hlt)

/-! ## 3. Operations, each with its members -/

/-- The set without members. -/
def empty : TermSet := ⟨[], .nil⟩

instance : EmptyCollection TermSet := ⟨empty⟩
instance : Inhabited TermSet := ⟨empty⟩

@[simp] theorem toList_empty : (∅ : TermSet).toList = [] := rfl

@[simp] theorem not_mem_empty (t : String) : t ∉ (∅ : TermSet) := by
  show t ∉ ([] : List String)
  simp

/-- The set of the terms of a list. -/
def ofList (terms : List String) : TermSet where
  toList := dropRepeats (terms.mergeSort (fun a b => decide (a ≤ b)))
  increasing := by
    refine pairwise_dropRepeats ?_
    have h : (terms.mergeSort (fun a b => decide (a ≤ b))).Pairwise
        (fun a b => decide (a ≤ b) = true) :=
      List.pairwise_mergeSort
        (fun a b c hab hbc => by
          simp only [decide_eq_true_eq] at *
          exact String.le_trans hab hbc)
        (fun a b => by simpa using String.le_total a b) terms
    simpa using h

@[simp] theorem mem_ofList {t : String} {terms : List String} : t ∈ ofList terms ↔ t ∈ terms := by
  show t ∈ dropRepeats _ ↔ _
  rw [mem_dropRepeats, List.mem_mergeSort]

/-- Number of members. -/
def size (s : TermSet) : Nat := s.toList.length

/-- Whether the set has no members. -/
def isEmpty (s : TermSet) : Bool := s.toList.isEmpty

theorem isEmpty_iff {s : TermSet} : s.isEmpty = true ↔ s.size = 0 := by
  simp [isEmpty, size]

/-- The members of either set. -/
def union (s₁ s₂ : TermSet) : TermSet := ofList (s₁.toList ++ s₂.toList)

instance : Union TermSet := ⟨union⟩

@[simp] theorem mem_union {t : String} {s₁ s₂ : TermSet} : t ∈ s₁ ∪ s₂ ↔ t ∈ s₁ ∨ t ∈ s₂ := by
  show t ∈ ofList _ ↔ _
  simp [mem_toList]

/-- The members of the first set that the second lacks. -/
def diff (s₁ s₂ : TermSet) : TermSet where
  toList := s₁.toList.filter (fun t => decide (t ∉ s₂))
  increasing := s₁.increasing.filter _

instance : SDiff TermSet := ⟨diff⟩

@[simp] theorem mem_diff {t : String} {s₁ s₂ : TermSet} : t ∈ s₁ \ s₂ ↔ t ∈ s₁ ∧ t ∉ s₂ := by
  show t ∈ List.filter _ _ ↔ _
  simp [mem_toList]

/-- A difference keeps the order of the first set. -/
@[simp] theorem toList_diff (s₁ s₂ : TermSet) :
    (s₁ \ s₂).toList = s₁.toList.filter (fun t => decide (t ∉ s₂)) := rfl

theorem size_diff_le (s₁ s₂ : TermSet) : (s₁ \ s₂).size ≤ s₁.size :=
  List.length_filter_le _ _

end TermSet

end KeywordGrammar
