/-
# Lowercase forms

Lowercasing looks around a sigma and makes two characters of the dotted capital I, so a text could well
change again when it is lowercased twice.  It does not (`lower_lower`).  Every character of a lowercase
form is settled, that is, lowercasing leaves it alone whatever stands around it; and a text is its own
lowercase form iff all of its characters are settled (`lower_eq_self_iff`).
-/
import KeywordGrammar.Proofs.CaseRuns
import KeywordGrammar.Unicode.Lower

namespace KeywordGrammar.Unicode

/-! ## 1. Settled characters -/

/-- Whether lowercasing leaves a character alone, whatever stands around it. -/
structure IsSettled (c : Char) : Prop where
  ne_sigma : c ≠ 'Σ'
  stays : lowerChar c = [c]

instance (c : Char) : Decidable (IsSettled c) :=
  decidable_of_iff (c ≠ 'Σ' ∧ lowerChar c = [c]) ⟨fun h => ⟨h.1, h.2⟩, fun h => ⟨h.1, h.2⟩⟩

theorem IsSettled.ne_dottedI {c : Char} (h : IsSettled c) : c ≠ 'İ' := by
  rintro rfl
  exact absurd h.stays (by decide)

theorem IsSettled.lowerAt {c : Char} (h : IsSettled c) (before after : List Char) :
    lowerAt before c after = [c] := by
  rw [Unicode.lowerAt, if_neg h.ne_sigma, h.stays]

/-- A table that moves nothing to the dotted capital I maps only that letter to it. -/
theorem eq_dottedI_of_mapped {table : List CaseRun} {c : Char}
    (htable : table.all (fun r => r.moved.all (fun n => Char.ofNat (r.target n) != 'İ')) = true)
    (h : Char.ofNat (mapped table c.toNat) = 'İ') : c = 'İ' := by
  rcases mapped_eq_or table c.toNat with hstays | ⟨r, hr, hmoves, htarget⟩
  · rwa [hstays, Char.ofNat_toNat] at h
  · have hne := CaseRun.of_all_moved htable hr hmoves
    rw [← htarget, h] at hne
    cases hne

/-- What the table of lowercase mappings makes of a character is settled, unless that character is the
dotted capital I. -/
theorem isSettled_ofNat_mapped {c : Char} (hc : c ≠ 'İ') :
    IsSettled (Char.ofNat (mapped lowerRuns c.toNat)) := by
  have htable : targetsStay lowerRuns = true := by decide +kernel
  have hzero : mapped lowerRuns 0 = 0 := by decide +kernel
  have htwice := ofNat_mapped_twice htable hzero c
  have hdotted : Char.ofNat (mapped lowerRuns c.toNat) ≠ 'İ' :=
    fun h => hc (eq_dottedI_of_mapped (by decide +kernel) h)
  constructor
  · intro hsigma
    rw [hsigma] at htwice
    exact absurd htwice (by decide +kernel)
  · rw [lowerChar, if_neg hdotted, htwice]

/-- **Lowercasing leaves only settled characters behind**, wherever the character stood. -/
theorem isSettled_of_mem_lowerAt {c d : Char} {before after : List Char}
    (h : d ∈ lowerAt before c after) : IsSettled d := by
  unfold lowerAt lowerChar at h
  split at h
  · -- both forms of the sigma are settled
    rw [List.mem_singleton] at h
    subst h
    split
    · decide +kernel
    · decide +kernel
  · split at h
    · -- so are the small i and its dot
      simp only [List.mem_cons, List.not_mem_nil, or_false] at h
      rcases h with rfl | rfl
      · decide +kernel
      · decide +kernel
    · rename_i hc
      rw [List.mem_singleton] at h
      subst h
      exact isSettled_ofNat_mapped hc

/-! ## 2. Texts -/

theorem isSettled_of_mem_lowerFrom {d : Char} : ∀ {rest before : List Char},
    d ∈ lowerFrom before rest [] → IsSettled d
  | [], _, h => absurd h List.not_mem_nil
  | c :: rest, before, h => by
    rw [lowerFrom_cons, List.mem_append] at h
    rcases h with h | h
    · exact isSettled_of_mem_lowerAt h
    · exact isSettled_of_mem_lowerFrom h

theorem lowerFrom_of_isSettled : ∀ {rest before : List Char}, (∀ c ∈ rest, IsSettled c) →
    lowerFrom before rest [] = rest
  | [], _, _ => rfl
  | c :: rest, before, h => by
    rw [lowerFrom_cons, (h c List.mem_cons_self).lowerAt,
      lowerFrom_of_isSettled (fun d hd => h d (List.mem_cons_of_mem c hd))]
    rfl

theorem isSettled_of_mem_lower {s : String} {d : Char} (h : d ∈ (lower s).toList) : IsSettled d := by
  rw [lower, String.toList_ofList] at h
  exact isSettled_of_mem_lowerFrom h

/-- A text is its own lowercase form iff no character of it would change anywhere. -/
theorem lower_eq_self_iff {s : String} : lower s = s ↔ ∀ c ∈ s.toList, IsSettled c := by
  constructor
  · intro h c hc
    rw [← h] at hc
    exact isSettled_of_mem_lower hc
  · intro h
    rw [lower, lowerFrom_of_isSettled h, String.ofList_toList]

/-- **Lowercasing twice is lowercasing once.** -/
theorem lower_lower (s : String) : lower (lower s) = lower s :=
  lower_eq_self_iff.mpr fun _ hc => isSettled_of_mem_lower hc

/-- Neither form of the small sigma changes again, at the end of a word or elsewhere. -/
example : lower "ΟΔΟΣ ΣΑΣ İ" = "οδος σας i̇" ∧ lower "σς οδοσ" = "σς οδοσ" := by decide +kernel

end KeywordGrammar.Unicode
