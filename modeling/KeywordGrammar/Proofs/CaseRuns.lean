/-
# Case mappings that are tables

A case mapping is a table of runs, and what is to be known of it is often a fact about each of the more
than a thousand characters that it moves.  This file says how such a fact is got from the table.

* `CaseRun.of_all_moved`: what a computation has found of all characters that the runs move holds of any
  of them.
* `mapped_mapped`: a table moves nothing twice.  This is found without a look at most of the characters:
  what a run moves to some span is not moved again if no run begins or ends in that span, or only this
  run itself does and its shift is no multiple of its step (`CaseRun.isClear`).
-/
import KeywordGrammar.Unicode.Range

namespace KeywordGrammar.Unicode

/-! ## 1. What a run moves -/

namespace CaseRun

/-- The code points that the run moves. -/
def moved (r : CaseRun) : List Nat :=
  (List.range ((r.last - r.first) / r.step + 1)).map (fun i => r.first + i * r.step)

theorem mem_moved {r : CaseRun} {n : Nat} (h : r.moves n = true) : n ∈ r.moved := by
  simp only [moves, Bool.and_eq_true, decide_eq_true_eq, beq_iff_eq] at h
  obtain ⟨⟨hfirst, hlast⟩, hmod⟩ := h
  refine List.mem_map.mpr ⟨(n - r.first) / r.step, ?_, ?_⟩
  · have hle : (n - r.first) / r.step ≤ (r.last - r.first) / r.step :=
      Nat.div_le_div_right (Nat.sub_le_sub_right hlast r.first)
    exact List.mem_range.mpr (Nat.lt_succ_of_le hle)
  · rw [Nat.div_mul_cancel (Nat.dvd_of_mod_eq_zero hmod), Nat.add_sub_cancel' hfirst]

theorem bounds_of_moves {r : CaseRun} {n : Nat} (h : r.moves n = true) :
    r.first ≤ n ∧ n ≤ r.last := by
  simp only [moves, Bool.and_eq_true, decide_eq_true_eq] at h
  exact h.1

/-- A property of all characters that the runs of a table move, looked up for one of them. -/
theorem of_all_moved {table : List CaseRun} {holds : CaseRun → Nat → Bool} {r : CaseRun}
    {n : Nat} (h : table.all (fun r => r.moved.all (holds r)) = true) (hr : r ∈ table)
    (hmoves : r.moves n = true) : holds r n = true :=
  List.all_eq_true.mp (List.all_eq_true.mp h r hr) n (mem_moved hmoves)

end CaseRun

/-- In an increasing table, a run that moves a code point decides its image. -/
theorem mapped_of_mem {r : CaseRun} {n : Nat} (hmoves : r.moves n = true) :
    ∀ {table : List CaseRun}, isIncreasing CaseRun.first CaseRun.last table = true → r ∈ table →
      mapped table n = r.target n
  | s :: rest, hinc, hr => by
    have hbounds := CaseRun.bounds_of_moves hmoves
    rw [mapped]
    rcases List.mem_cons.mp hr with rfl | hr
    · rw [if_neg (by omega), if_pos hmoves]
    · have hs := first_le_last hinc
      have hbehind := last_lt_first hinc r hr
      have hnot : s.moves n = false := by
        rw [Bool.eq_false_iff]
        intro hmoved
        have := CaseRun.bounds_of_moves hmoved
        omega
      rw [if_neg (by omega), hnot, if_neg Bool.false_ne_true]
      exact mapped_of_mem hmoves (isIncreasing_of_cons hinc) hr

/-! ## 2. Moving twice -/

/-- A code point that the first run does not move is left to the others. -/
theorem mapped_cons_of_not_moves {s : CaseRun} {rest : List CaseRun} {n : Nat}
    (hs : s.moves n = false) (hrest : mapped rest n = n) : mapped (s :: rest) n = n := by
  rw [mapped, hs, hrest]
  split
  · rfl
  · rfl

namespace CaseRun

/-- Whether no run of a table moves a code point between `lo` and `hi`, where `r` itself moves others to.
The run itself may reach there if it steps over those code points. -/
def isClear (r : CaseRun) (lo hi : Nat) : List CaseRun → Bool
  | [] => true
  | s :: rest =>
    if s.last < lo then r.isClear lo hi rest
    else decide (hi < s.first) ||
      (s == r && decide (0 ≤ r.first + r.shift ∧ r.shift % r.step ≠ 0) && r.isClear lo hi rest)

/-- A run whose shift is no multiple of its step does not move what it has moved. -/
theorem moves_target_eq_false {r : CaseRun} {n : Nat} (hpos : 0 ≤ r.first + r.shift)
    (hshift : r.shift % r.step ≠ 0) (hn : r.moves n = true) : r.moves (r.target n) = false := by
  rw [Bool.eq_false_iff]
  intro hagain
  simp only [moves, Bool.and_eq_true, decide_eq_true_eq, beq_iff_eq] at hn hagain
  obtain ⟨⟨hfirst, -⟩, hn⟩ := hn
  obtain ⟨⟨hfirst', -⟩, hagain⟩ := hagain
  have htarget : (r.target n : Int) = n + r.shift := Int.toNat_of_nonneg (by omega)
  have hdiff : r.shift = ((r.target n - r.first : Nat) : Int) - ((n - r.first : Nat) : Int) := by
    omega
  have hdvd : (r.step : Int) ∣ r.shift := by
    rw [hdiff]
    exact Int.dvd_sub (Int.natCast_dvd_natCast.mpr (Nat.dvd_of_mod_eq_zero hagain))
      (Int.natCast_dvd_natCast.mpr (Nat.dvd_of_mod_eq_zero hn))
  exact hshift (Int.emod_eq_zero_of_dvd hdvd)

theorem mapped_target_of_isClear {r : CaseRun} {lo hi n : Nat} (hn : r.moves n = true)
    (hlo : lo ≤ r.target n) (hhi : r.target n ≤ hi) : ∀ {table : List CaseRun},
      r.isClear lo hi table = true → mapped table (r.target n) = r.target n
  | [], _ => rfl
  | s :: rest, hclear => by
    rw [isClear] at hclear
    split at hclear
    · rename_i hbefore
      refine mapped_cons_of_not_moves ?_ (mapped_target_of_isClear hn hlo hhi hclear)
      rw [Bool.eq_false_iff]
      intro hmoves
      have := bounds_of_moves hmoves
      omega
    · rw [Bool.or_eq_true, Bool.and_eq_true, Bool.and_eq_true, beq_iff_eq, decide_eq_true_eq,
        decide_eq_true_eq] at hclear
      rcases hclear with hbehind | ⟨⟨rfl, hpos, hshift⟩, hclear⟩
      · rw [mapped, if_pos (by omega)]
      · exact mapped_cons_of_not_moves (moves_target_eq_false hpos hshift hn)
          (mapped_target_of_isClear hn hlo hhi hclear)

end CaseRun

/-- Whether a table leaves what it moves where it has been moved to.  Only the characters of a run that is
not clear are looked at. -/
def targetsStay (table : List CaseRun) : Bool :=
  table.all (fun r => r.isClear (r.target r.first) (r.target r.last) table ||
    r.moved.all (fun n => mapped table (r.target n) == r.target n))

/-- **A table whose targets stay moves nothing twice.** -/
theorem mapped_mapped {table : List CaseRun} (h : targetsStay table = true) (n : Nat) :
    mapped table (mapped table n) = mapped table n := by
  rcases mapped_eq_or table n with hstays | ⟨r, hr, hmoves, htarget⟩
  · rw [hstays, hstays]
  · rw [htarget]
    have hrun := List.all_eq_true.mp h r hr
    rw [Bool.or_eq_true] at hrun
    rcases hrun with hclear | hall
    · have hbounds := CaseRun.bounds_of_moves hmoves
      refine CaseRun.mapped_target_of_isClear hmoves ?_ ?_ hclear
      · simp only [CaseRun.target]
        omega
      · simp only [CaseRun.target]
        omega
    · exact eq_of_beq (List.all_eq_true.mp hall n (CaseRun.mem_moved hmoves))

/-- The same of characters; what is no character stands for the first one, which must stay too. -/
theorem ofNat_mapped_twice {table : List CaseRun} (h : targetsStay table = true)
    (hzero : mapped table 0 = 0) (c : Char) :
    Char.ofNat (mapped table (Char.ofNat (mapped table c.toNat)).toNat) =
      Char.ofNat (mapped table c.toNat) := by
  by_cases hvalid : (mapped table c.toNat).isValidChar
  · have htoNat : (Char.ofNat (mapped table c.toNat)).toNat = mapped table c.toNat := by
      rw [Char.ofNat, dif_pos hvalid]
      rfl
    rw [htoNat, mapped_mapped h]
  · have hfirst : Char.ofNat (mapped table c.toNat) = Char.ofNat 0 := by
      rw [Char.ofNat, dif_neg hvalid]
      rfl
    have hnul : (Char.ofNat 0).toNat = 0 := rfl
    rw [hfirst, hnul, hzero]

end KeywordGrammar.Unicode
