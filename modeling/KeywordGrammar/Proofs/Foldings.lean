/-
# Lowercase and folding

Terms are compared by their lowercase form, and rules compare letters by their folding.  On words the
two agree but for one character: lowercasing a word that has no dotted capital I keeps its folding
(`Alike.lower`), while a text with a dotted capital I is like no lowercase form (`not_alike_lower`).

Both mappings are tables, and nearly all runs of the one are runs of the other.  So the tables are
compared run by run, and only the characters of the other runs are looked at.  Some of these have a
lowercase form and no folding; they are no word characters.
-/
import KeywordGrammar.Proofs.LowercaseForms
import KeywordGrammar.Proofs.WholeWords

namespace KeywordGrammar

namespace Unicode

/-! ## 1. Lowercase forms and their foldings -/

/-- What some character is folded to is not folded further. -/
theorem fold_fold (c : Char) : fold (fold c) = fold c := by
  have htable : targetsStay foldRuns = true := by decide +kernel
  have hzero : mapped foldRuns 0 = 0 := by decide +kernel
  rw [fold_eq (fold c), fold_eq c, ofNat_mapped_twice htable hzero]

/-- A run of the lowercase mapping is a run of the folding, or it keeps the foldings of the word
characters that it moves. -/
theorem lowerRuns_mem_or_keep : lowerRuns.all (fun r => (block r.last foldBlocks).contains r ||
    r.moved.all (fun n =>
      !isWord (Char.ofNat n) || fold (Char.ofNat (r.target n)) == fold (Char.ofNat n))) = true := by
  decide +kernel

/-- Lowercasing a single word character keeps its folding. -/
theorem map_fold_lowerChar {c : Char} (hword : isWord c = true) (hc : c ≠ 'İ') :
    (lowerChar c).map fold = [fold c] := by
  rw [lowerChar, if_neg hc, List.map_singleton]
  rcases mapped_eq_or lowerRuns c.toNat with hstays | ⟨r, hr, hmoves, htarget⟩
  · rw [hstays, Char.ofNat_toNat]
  · have hrun := List.all_eq_true.mp lowerRuns_mem_or_keep r hr
    rw [Bool.or_eq_true] at hrun
    rw [htarget]
    rcases hrun with hmem | hkeep
    · -- both mappings move the character to the same place, where the folding leaves it
      have hfold : r ∈ foldRuns := by
        rw [← flatMap_blocks CaseRun.last 14 foldRuns]
        exact mem_flatMap_of_mem_block (List.contains_iff_mem.mp hmem)
      rw [← mapped_of_mem hmoves (by decide +kernel) hfold, ← fold_eq, fold_fold]
    · have hkept := List.all_eq_true.mp hkeep _ (CaseRun.mem_moved hmoves)
      rw [Char.ofNat_toNat, hword, Bool.not_true, Bool.false_or, beq_iff_eq] at hkept
      rw [hkept]

/-- Lowercasing a word character keeps its folding wherever it stands, as both small sigmas are like the
capital one. -/
theorem map_fold_lowerAt {c : Char} (hword : isWord c = true) (hc : c ≠ 'İ')
    (before after : List Char) : (lowerAt before c after).map fold = [fold c] := by
  unfold lowerAt
  split
  · rename_i hsigma
    subst hsigma
    split
    · decide +kernel
    · decide +kernel
  · exact map_fold_lowerChar hword hc

/-! ## 2. The dotted capital I -/

/-- No other character is folded to the dotted capital I. -/
theorem eq_dottedI_of_fold {c : Char} (h : fold c = 'İ') : c = 'İ' :=
  eq_dottedI_of_mapped (by decide +kernel) (fold_eq c ▸ h)

end Unicode

/-! ## 3. Texts -/

open Unicode

/-- Whether two texts are the same up to case. -/
def Alike (s t : String) : Prop := s.toList.map fold = t.toList.map fold

instance (s t : String) : Decidable (Alike s t) :=
  inferInstanceAs (Decidable (s.toList.map fold = t.toList.map fold))

/-- **A word without a dotted capital I is like its lowercase form.** -/
theorem Alike.lower {s : String} (hs : IsWordTerm s) (hdot : 'İ' ∉ s.toList) :
    Alike (lower s) s := by
  have hfrom : ∀ (rest before : List Char), (∀ c ∈ rest, isWord c = true) → 'İ' ∉ rest →
      (lowerFrom before rest []).map fold = rest.map fold := by
    intro rest
    induction rest with
    | nil => exact fun _ _ _ => rfl
    | cons c rest ih =>
      intro before hword hdot
      have hc := map_fold_lowerAt (hword c List.mem_cons_self)
        (List.ne_of_not_mem_cons hdot).symm before rest
      have hrest := ih (c :: before) (fun d hd => hword d (List.mem_cons_of_mem c hd))
        (List.not_mem_of_not_mem_cons hdot)
      rw [lowerFrom_cons, List.map_append, hc, hrest]
      rfl
  rw [Alike, Unicode.lower, String.toList_ofList]
  exact hfrom _ _ hs.word hdot

/-- Texts can be alike without having the same lowercase form. -/
example : Alike "ſ" "S" ∧ lower "ſ" ≠ lower "S" := by decide +kernel

/-- **A text with a dotted capital I is like no lowercase form.** -/
theorem not_alike_lower {s t : String} (hdot : 'İ' ∈ t.toList) : ¬ Alike (lower s) t := by
  intro h
  have hmem : fold 'İ' ∈ (lower s).toList.map fold := h ▸ List.mem_map_of_mem hdot
  obtain ⟨c, hc, hfold⟩ := List.mem_map.mp hmem
  have hself : fold 'İ' = 'İ' := by decide +kernel
  rw [eq_dottedI_of_fold (hfold.trans hself)] at hc
  exact (isSettled_of_mem_lower hc).ne_dottedI rfl

end KeywordGrammar
