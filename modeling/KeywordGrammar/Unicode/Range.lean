/-
# Tables of code points

A property of characters is held as a list of spans in increasing order, and a one-to-one case
mapping as a list of runs in increasing order.  Both are looked up by walking the list and leaving
it as soon as the remaining entries lie above the code point, so a fact about all characters of a
table is a fact about finitely many spans or runs.

A long table is cut into blocks, so that a look-up passes over most of its entries in few steps;
`inSpans_block` and `mapped_block` say that this changes no answer.
-/

namespace KeywordGrammar.Unicode

/-! ## 1. Spans -/

/-- Whether `n` lies in one of the spans (first and last code point, in increasing order). -/
def inSpans : List (Nat × Nat) → Nat → Bool
  | [], _ => false
  | (lo, hi) :: rest, n => if n < lo then false else decide (n ≤ hi) || inSpans rest n

/-- A code point found in a table lies in one of its spans. -/
theorem exists_span_of_inSpans : ∀ {table : List (Nat × Nat)} {n : Nat},
    inSpans table n = true → ∃ s ∈ table, s.1 ≤ n ∧ n ≤ s.2
  | [], _, h => by simp [inSpans] at h
  | (lo, hi) :: rest, n, h => by
    simp only [inSpans] at h
    split at h
    · exact absurd h (by simp)
    · rename_i hlo
      simp only [Bool.or_eq_true, decide_eq_true_eq] at h
      rcases h with h | h
      · exact ⟨(lo, hi), by simp, by omega, h⟩
      · obtain ⟨s, hs, hb⟩ := exists_span_of_inSpans h
        exact ⟨s, List.mem_cons_of_mem _ hs, hb⟩

/-! ## 2. Case runs -/

/-- Every `step`-th code point from `first` to `last` is moved by `shift`. -/
structure CaseRun where
  first : Nat
  last : Nat
  step : Nat
  shift : Int
  deriving Repr, DecidableEq

namespace CaseRun

/-- Whether the run moves `n`. -/
def moves (r : CaseRun) (n : Nat) : Bool :=
  decide (r.first ≤ n) && decide (n ≤ r.last) && (n - r.first) % r.step == 0

/-- Where the run moves `n`. -/
def target (r : CaseRun) (n : Nat) : Nat := (n + r.shift).toNat

end CaseRun

/-- The image of `n` under the runs; a code point that no run moves stays. -/
def mapped : List CaseRun → Nat → Nat
  | [], n => n
  | r :: rest, n =>
    if n < r.first then n else if r.moves n then r.target n else mapped rest n

/-- A code point either stays or is moved by one of the runs. -/
theorem mapped_eq_or : ∀ (table : List CaseRun) (n : Nat),
    mapped table n = n ∨ ∃ r ∈ table, r.moves n = true ∧ mapped table n = r.target n
  | [], _ => .inl rfl
  | r :: rest, n => by
    simp only [mapped]
    split
    · exact .inl rfl
    · split
      · rename_i hm
        exact .inr ⟨r, by simp, hm, rfl⟩
      · rcases mapped_eq_or rest n with h | ⟨s, hs, hm, ht⟩
        · exact .inl h
        · exact .inr ⟨s, List.mem_cons_of_mem _ hs, hm, ht⟩

/-! ## 3. Blocks -/

/-- Cuts a table into blocks of at most `size` entries, each with the last code point of its last
entry. -/
def blocks {α : Type} (last : α → Nat) (size : Nat) : List α → List (Nat × List α)
  | [] => []
  | a :: rest =>
    match blocks last size rest with
    | [] => [(last a, [a])]
    | (n, entries) :: more =>
      if entries.length < size then (n, a :: entries) :: more
      else (last a, [a]) :: (n, entries) :: more

/-- The first block that does not end before `n`. -/
def block {α : Type} (n : Nat) : List (Nat × List α) → List α
  | [] => []
  | (last, entries) :: rest => if n ≤ last then entries else block n rest

/-- Whether each entry ends no earlier than it begins, and the next one begins behind it. -/
def isIncreasing {α : Type} (first last : α → Nat) : List α → Bool
  | [] => true
  | [a] => decide (first a ≤ last a)
  | a :: b :: rest =>
    decide (first a ≤ last a) && decide (last a < first b) && isIncreasing first last (b :: rest)

section

variable {α : Type} {first last : α → Nat}

theorem isIncreasing_of_cons {a : α} : ∀ {l : List α}, isIncreasing first last (a :: l) = true →
    isIncreasing first last l = true
  | [], _ => rfl
  | _ :: _, h => by simp only [isIncreasing, Bool.and_eq_true] at h; exact h.2

theorem first_le_last {a : α} : ∀ {l : List α}, isIncreasing first last (a :: l) = true →
    first a ≤ last a
  | [], h => by simpa [isIncreasing] using h
  | _ :: _, h => by simp only [isIncreasing, Bool.and_eq_true, decide_eq_true_eq] at h; exact h.1.1

/-- All later entries begin behind the first one. -/
theorem last_lt_first {a : α} : ∀ {l : List α}, isIncreasing first last (a :: l) = true →
    ∀ b ∈ l, last a < first b
  | [], _, b, hb => by simp at hb
  | c :: l, h, b, hb => by
    have hc : last a < first c := by
      simp only [isIncreasing, Bool.and_eq_true, decide_eq_true_eq] at h
      exact h.1.2
    have h' := isIncreasing_of_cons h
    rcases List.mem_cons.1 hb with rfl | hb
    · exact hc
    · exact Nat.lt_trans hc (Nat.lt_of_le_of_lt (first_le_last h') (last_lt_first h' b hb))

theorem first_le_last_of_mem {b : α} : ∀ {l : List α}, isIncreasing first last l = true → b ∈ l →
    first b ≤ last b
  | _ :: l, h, hb => by
    rcases List.mem_cons.1 hb with rfl | hb
    · exact first_le_last h
    · exact first_le_last_of_mem (isIncreasing_of_cons h) hb

theorem isIncreasing_of_append : ∀ (k : List α) {l : List α},
    isIncreasing first last (k ++ l) = true → isIncreasing first last l = true
  | [], _, h => h
  | _ :: k, _, h => isIncreasing_of_append k (isIncreasing_of_cons h)

/-- Whether a block is not empty and is kept with the last code point of its last entry. -/
def EndsAt (last : α → Nat) (b : Nat × List α) : Prop :=
  ∃ h : b.2 ≠ [], b.1 = last (b.2.getLast h)

theorem flatMap_blocks (last : α → Nat) (size : Nat) : ∀ table : List α,
    (blocks last size table).flatMap Prod.snd = table
  | [] => rfl
  | a :: rest => by
    have ih := flatMap_blocks last size rest
    simp only [blocks]
    split
    · rename_i h
      rw [h] at ih
      simpa using ih
    · rename_i h
      rw [h] at ih
      split <;> simpa using ih

theorem endsAt_of_mem_blocks (last : α → Nat) (size : Nat) : ∀ table : List α,
    ∀ b ∈ blocks last size table, EndsAt last b
  | [], b, hb => by simp [blocks] at hb
  | a :: rest, b, hb => by
    have ih := endsAt_of_mem_blocks last size rest
    simp only [blocks] at hb
    split at hb
    · rw [List.mem_singleton.1 hb]
      exact ⟨by simp, rfl⟩
    · rename_i n entries more h
      rw [h] at ih
      split at hb
      · rcases List.mem_cons.1 hb with rfl | hb
        · obtain ⟨hne, hn⟩ := ih (n, entries) List.mem_cons_self
          exact ⟨by simp, by simp only at hne hn ⊢; rw [hn, List.getLast_cons hne]⟩
        · exact ih b (List.mem_cons_of_mem _ hb)
      · rcases List.mem_cons.1 hb with rfl | hb
        · exact ⟨by simp, rfl⟩
        · exact ih b hb

/-- A way to look up `n` that passes over the entries that end before it and leaves the table at one
that begins behind it. -/
structure WalksTo {β : Type} (first last : α → Nat) (n : Nat) (f : List α → β) : Prop where
  skip : ∀ a l, first a ≤ last a → last a < n → f (a :: l) = f l
  leave : ∀ a l, n < first a → f (a :: l) = f []
  congr : ∀ a l m, f l = f m → f (a :: l) = f (a :: m)

namespace WalksTo

variable {β : Type} {n : Nat} {f : List α → β}

/-- Only the block that does not end before `n` counts, and only if no earlier one does. -/
theorem append (h : WalksTo first last n f) : ∀ (k : List α) (hk : k ≠ []) (l : List α),
    isIncreasing first last (k ++ l) = true →
    (n ≤ last (k.getLast hk) → f (k ++ l) = f k) ∧ (last (k.getLast hk) < n → f (k ++ l) = f l)
  | [a], _, l, hl => by
    refine ⟨fun hn => ?_, fun hn => h.skip a l (first_le_last hl) hn⟩
    cases l with
    | nil => rfl
    | cons b l =>
      have hb := last_lt_first hl b List.mem_cons_self
      exact h.congr a _ _ (h.leave b l (Nat.lt_of_le_of_lt hn hb))
  | a :: b :: k, _, l, hl => by
    have ih := h.append (b :: k) (by simp) l (isIncreasing_of_cons hl)
    rw [List.getLast_cons (by simp)]
    refine ⟨fun hn => h.congr a _ _ (ih.1 hn), fun hn => ?_⟩
    have hz : (b :: k).getLast (by simp) ∈ (b :: k) ++ l :=
      List.mem_append_left l (List.getLast_mem _)
    have h₁ := last_lt_first hl _ hz
    have h₂ := first_le_last_of_mem (isIncreasing_of_cons hl) hz
    rw [List.cons_append, h.skip a _ (first_le_last hl) (by omega)]
    exact ih.2 hn

/-- A look-up in the right block answers for all blocks together. -/
theorem block_flatten (h : WalksTo first last n f) : ∀ l : List (Nat × List α),
    (∀ b ∈ l, EndsAt last b) → isIncreasing first last (l.flatMap Prod.snd) = true →
    f (block n l) = f (l.flatMap Prod.snd)
  | [], _, _ => rfl
  | (m, entries) :: rest, hl, hi => by
    obtain ⟨hne, hm⟩ := hl (m, entries) List.mem_cons_self
    simp only at hne hm
    rw [List.flatMap_cons] at hi ⊢
    have happ := h.append entries hne (rest.flatMap Prod.snd) hi
    rw [Unicode.block]
    split
    · rename_i hn
      exact (happ.1 (hm ▸ hn)).symm
    · rename_i hn
      rw [h.block_flatten rest (fun b hb => hl b (List.mem_cons_of_mem _ hb))
        (isIncreasing_of_append entries hi)]
      exact (happ.2 (by omega)).symm

/-- A look-up in the right block answers for the whole table. -/
theorem block (h : WalksTo first last n f) (size : Nat) {table : List α}
    (ht : isIncreasing first last table = true) : f (block n (blocks last size table)) = f table := by
  have hf := flatMap_blocks last size table
  rw [h.block_flatten _ (endsAt_of_mem_blocks last size table) (by rwa [hf]), hf]

end WalksTo

end

/-- Cutting a table of spans into blocks changes no answer. -/
theorem inSpans_block {table : List (Nat × Nat)} (h : isIncreasing Prod.fst Prod.snd table = true)
    (size n : Nat) : inSpans (block n (blocks Prod.snd size table)) n = inSpans table n := by
  refine WalksTo.block (f := fun t => inSpans t n) ⟨?_, ?_, ?_⟩ size h
  · rintro ⟨lo, hi⟩ l (h₁ : lo ≤ hi) (h₂ : hi < n)
    simp only [inSpans]
    rw [if_neg (by omega), decide_eq_false (by omega), Bool.false_or]
  · rintro ⟨lo, hi⟩ l (h₁ : n < lo)
    simp [inSpans, h₁]
  · rintro ⟨lo, hi⟩ l m h₁
    simp only [inSpans]
    rw [h₁]

/-- Cutting a table of case runs into blocks changes no image. -/
theorem mapped_block {table : List CaseRun}
    (h : isIncreasing CaseRun.first CaseRun.last table = true) (size n : Nat) :
    mapped (block n (blocks CaseRun.last size table)) n = mapped table n := by
  refine WalksTo.block (f := fun t => mapped t n) ⟨?_, ?_, ?_⟩ size h
  · intro r l h₁ h₂
    have hm : r.moves n = false := by
      simp only [CaseRun.moves, decide_eq_false (show ¬ n ≤ r.last by omega), Bool.and_false,
        Bool.false_and]
    simp only [mapped]
    rw [if_neg (by omega), hm]
    rfl
  · intro r l h₁
    simp [mapped, h₁]
  · intro r l m h₁
    simp only [mapped]
    rw [h₁]

end KeywordGrammar.Unicode
