/-
# The words of a text

A word of a text is a stretch of word characters that cannot be made longer on either side.  Word
boundaries mark its two ends and nothing inside of it, which is what a pattern between two `\b`
depends on:

* `isWordRun_iff`: a stretch of word characters with a boundary at both ends is a word, and a word
  is such a stretch;
* `IsWordRun.eq_of_overlap`: two words of one text that share a character are one word.  So a pattern
  that finds words at single places finds the same words in a search (`Pattern.mem_search_iff_word`).

A rule compares letters regardless of case, so it is also needed that this comparison cannot confuse
word characters with others (`isWord_fold`).  Both are tables, and the folding moves more than a
thousand characters; the table of foldings is therefore compared with the table of word characters run
by run and not character by character.
-/
import KeywordGrammar.Proofs.CaseRuns
import KeywordGrammar.Proofs.Matches

namespace KeywordGrammar

/-! ## 1. Spans of a table -/

namespace Unicode

/-- A code point of a span of an increasing table is found. -/
theorem inSpans_of_mem {n : Nat} {s : Nat × Nat} : ∀ {table : List (Nat × Nat)},
    isIncreasing Prod.fst Prod.snd table = true → s ∈ table → s.1 ≤ n → n ≤ s.2 →
      inSpans table n = true
  | r :: rest, hinc, hs, hlo, hhi => by
    rcases List.mem_cons.mp hs with rfl | hs
    · simp [inSpans, Nat.not_lt.mpr hlo, hhi]
    · have hr := last_lt_first hinc s hs
      have hr' := first_le_last hinc
      rw [inSpans, if_neg (by omega), inSpans_of_mem (isIncreasing_of_cons hinc) hs hlo hhi,
        Bool.or_true]

theorem mem_flatMap_of_mem_block {α : Type} {a : α} {n : Nat} : ∀ {l : List (Nat × List α)},
    a ∈ block n l → a ∈ l.flatMap Prod.snd
  | (m, entries) :: rest, h => by
    rw [List.flatMap_cons, List.mem_append]
    simp only [block] at h
    split at h
    · exact .inl h
    · exact .inr (mem_flatMap_of_mem_block h)

/-- Whether one span of the word characters holds all code points from `lo` to `hi`. -/
def isWordStretch (lo hi : Nat) : Bool :=
  (block hi wordBlocks).any (fun s => decide (s.1 ≤ lo) && decide (hi ≤ s.2))

theorem inSpans_of_isWordStretch {lo hi n : Nat} (h : isWordStretch lo hi = true) (hlo : lo ≤ n)
    (hhi : n ≤ hi) : inSpans wordSpans n = true := by
  obtain ⟨s, hs, hspan⟩ := List.any_eq_true.mp h
  simp only [Bool.and_eq_true, decide_eq_true_eq] at hspan
  have hmem : s ∈ wordSpans := by
    rw [← flatMap_blocks Prod.snd 28 wordSpans]
    exact mem_flatMap_of_mem_block hs
  exact inSpans_of_mem (by decide +kernel) hmem (by omega) (by omega)

/-! ## 2. Foldings of word characters -/

namespace CaseRun

/-- Whether the run moves word characters to word characters; it need not be looked at one code point
at a time if both its sides lie in one span. -/
def staysInWords (r : CaseRun) : Bool :=
  (isWordStretch r.first r.last && isWordStretch (r.target r.first) (r.target r.last)) ||
    r.moved.all (fun n => isWordStretch n n && isWordStretch (r.target n) (r.target n))

theorem inSpans_of_staysInWords {r : CaseRun} {n : Nat} (h : r.staysInWords = true)
    (hn : r.moves n = true) :
    inSpans wordSpans n = true ∧ inSpans wordSpans (r.target n) = true := by
  simp only [staysInWords, Bool.or_eq_true, Bool.and_eq_true, List.all_eq_true] at h
  rcases h with ⟨hfrom, hto⟩ | h
  · have hbounds := bounds_of_moves hn
    refine ⟨inSpans_of_isWordStretch hfrom hbounds.1 hbounds.2, ?_⟩
    refine inSpans_of_isWordStretch hto ?_ ?_
    · simp only [target]
      omega
    · simp only [target]
      omega
  · obtain ⟨hfrom, hto⟩ := h n (mem_moved hn)
    exact ⟨inSpans_of_isWordStretch hfrom (Nat.le_refl n) (Nat.le_refl n),
      inSpans_of_isWordStretch hto (Nat.le_refl _) (Nat.le_refl _)⟩

end CaseRun

theorem foldRuns_stayInWords : foldRuns.all CaseRun.staysInWords = true := by decide +kernel

theorem isValidChar_of_inSpans {n : Nat} (h : inSpans wordSpans n = true) : n.isValidChar := by
  have hvalid : wordSpans.all (fun s => decide (s.2 < 0xD800) ||
      (decide (0xDFFF < s.1) && decide (s.2 < 0x110000))) = true := by decide +kernel
  obtain ⟨s, hs, hlo, hhi⟩ := exists_span_of_inSpans h
  have hspan := List.all_eq_true.mp hvalid s hs
  simp only [Bool.or_eq_true, Bool.and_eq_true, decide_eq_true_eq] at hspan
  unfold Nat.isValidChar
  omega

/-- **Folding turns word characters into word characters and others into others.** -/
theorem isWord_fold (c : Char) : isWord (fold c) = isWord c := by
  rcases mapped_eq_or foldRuns c.toNat with h | ⟨r, hr, hmoves, h⟩
  · rw [fold_eq, h, Char.ofNat_toNat]
  · have hruns := List.all_eq_true.mp foldRuns_stayInWords
    obtain ⟨hfrom, hto⟩ := CaseRun.inSpans_of_staysInWords (hruns r hr) hmoves
    have htarget : (Char.ofNat (r.target c.toNat)).toNat = r.target c.toNat := by
      rw [Char.ofNat, dif_pos (isValidChar_of_inSpans hto)]
      rfl
    rw [fold_eq, h, isWord_eq, isWord_eq, hfrom, htarget, hto]

end Unicode

/-! ## 3. Words and their ends -/

open Unicode

/-- Whether `letters` are a word of the text, from one place to another. -/
structure Place.IsWordRun (p : Place) (letters : List Char) (q : Place) : Prop where
  leads : p.Leads letters q
  ne_nil : letters ≠ []
  word : ∀ c ∈ letters, isWord c = true
  front : p.before.head?.any isWord = false
  back : q.after.head?.any isWord = false

namespace Place

variable {p q p' q' r : Place} {s s' : List Char}

/-- The first of some word characters stands behind their front. -/
theorem any_head?_after (h : p.Leads s q) (hne : s ≠ []) (hword : ∀ c ∈ s, isWord c = true) :
    p.after.head?.any isWord = true := by
  obtain ⟨c, rest, rfl⟩ := List.exists_cons_of_ne_nil hne
  rw [h.after, List.cons_append, List.head?_cons, Option.any_some]
  exact hword c List.mem_cons_self

/-- The last of some word characters stands in front of their end. -/
theorem any_head?_before (h : p.Leads s q) (hne : s ≠ []) (hword : ∀ c ∈ s, isWord c = true) :
    q.before.head?.any isWord = true := by
  obtain ⟨rest, c, rfl⟩ := (List.eq_nil_or_concat s).resolve_left hne
  rw [List.concat_eq_append] at h hword
  rw [h.before, List.reverse_append, List.reverse_singleton, List.singleton_append,
    List.cons_append, List.head?_cons, Option.any_some]
  exact hword c (List.mem_append_right rest List.mem_cons_self)

theorem isBoundary_iff : p.isBoundary = true ↔
    p.before.head?.any isWord ≠ p.after.head?.any isWord := by
  simp [isBoundary]

/-- **Words are the stretches of word characters between two boundaries.** -/
theorem isWordRun_iff : p.IsWordRun s q ↔ p.Leads s q ∧ s ≠ [] ∧ (∀ c ∈ s, isWord c = true) ∧
    p.isBoundary = true ∧ q.isBoundary = true := by
  constructor
  · intro h
    refine ⟨h.leads, h.ne_nil, h.word, isBoundary_iff.mpr ?_, isBoundary_iff.mpr ?_⟩
    · rw [h.front, any_head?_after h.leads h.ne_nil h.word]
      simp
    · rw [h.back, any_head?_before h.leads h.ne_nil h.word]
      simp
  · rintro ⟨hleads, hne, hword, hp, hq⟩
    rw [isBoundary_iff, any_head?_after hleads hne hword] at hp
    rw [isBoundary_iff, any_head?_before hleads hne hword] at hq
    exact ⟨hleads, hne, hword, by simpa using hp, by simpa using hq.symm⟩

namespace IsWordRun

theorem offset_lt (h : p.IsWordRun s q) : p.offset < q.offset := h.leads.offset_lt_iff.mpr h.ne_nil

/-- A place behind the front of a word, and not behind its end, has a word character in front. -/
theorem any_before (h : p.IsWordRun s q) (htext : p.text = r.text) (hp : p.offset < r.offset)
    (hq : r.offset ≤ q.offset) : r.before.head?.any isWord = true := by
  obtain ⟨u, hu⟩ := leads_of_offset_le htext (Nat.le_of_lt hp)
  obtain ⟨v, hv⟩ := leads_of_offset_le (htext.symm.trans h.leads.text_eq.symm) hq
  have hsplit : s = u ++ v := h.leads.letters_eq (hu.trans hv)
  refine any_head?_before hu (hu.offset_lt_iff.mp hp) (fun c hc => h.word c ?_)
  rw [hsplit]
  exact List.mem_append_left v hc

/-- A place in front of the end of a word, and not in front of it, has a word character behind. -/
theorem any_after (h : p.IsWordRun s q) (htext : p.text = r.text) (hp : p.offset ≤ r.offset)
    (hq : r.offset < q.offset) : r.after.head?.any isWord = true := by
  obtain ⟨u, hu⟩ := leads_of_offset_le htext hp
  obtain ⟨v, hv⟩ := leads_of_offset_le (htext.symm.trans h.leads.text_eq.symm) (Nat.le_of_lt hq)
  have hsplit : s = u ++ v := h.leads.letters_eq (hu.trans hv)
  refine any_head?_after hv (hv.offset_lt_iff.mp hq) (fun c hc => h.word c ?_)
  rw [hsplit]
  exact List.mem_append_right u hc

/-- **Two words of one text that share a character are one word.** -/
theorem eq_of_overlap (h : p.IsWordRun s q) (h' : p'.IsWordRun s' q') (htext : p.text = p'.text)
    (hpq : p.offset < q'.offset) (hqp : p'.offset < q.offset) : p' = p ∧ s' = s ∧ q' = q := by
  have htext' := h'.leads.text_eq.trans htext.symm
  -- neither word begins or ends inside of the other, since there are word characters on both sides
  have hstart : p'.offset = p.offset := by
    rcases Nat.lt_trichotomy p'.offset p.offset with hlt | heq | hgt
    · have := h'.any_before htext.symm hlt (Nat.le_of_lt hpq)
      rw [h.front] at this
      cases this
    · exact heq
    · have := h.any_before htext hgt (Nat.le_of_lt hqp)
      rw [h'.front] at this
      cases this
  have hstop : q'.offset = q.offset := by
    rcases Nat.lt_trichotomy q'.offset q.offset with hlt | heq | hgt
    · have := h.any_after htext'.symm (Nat.le_of_lt hpq) hlt
      rw [h'.back] at this
      cases this
    · exact heq
    · have := h'.any_after (htext.symm.trans h.leads.text_eq.symm) (Nat.le_of_lt hqp) hgt
      rw [h.back] at this
      cases this
  have hp : p' = p := eq_of_offset_eq htext.symm hstart
  have hq : q' = q := eq_of_offset_eq (htext'.trans h.leads.text_eq.symm) hstop
  subst hp hq
  exact ⟨rfl, h'.leads.letters_eq h.leads, rfl⟩

end IsWordRun

end Place

/-! ## 4. Searches for words -/

/-- **If the match of a place is the word that begins there, for words with some property, a search
reports exactly these words.** -/
theorem Pattern.mem_search_iff_word {p : Pattern} {holds : List Char → Prop}
    (hsound : ∀ m, p.matchAt? m.start = some m →
      ∃ letters, m.start.IsWordRun letters m.stop ∧ holds letters)
    (hcomplete : ∀ start letters stop, start.IsWordRun letters stop → holds letters →
      ∃ m, p.matchAt? start = some m)
    {text : String} {start stop : Place} :
    (∃ m ∈ p.search text, m.start = start ∧ m.stop = stop) ↔
      start.text = text.toList ∧ ∃ letters, start.IsWordRun letters stop ∧ holds letters := by
  constructor
  · rintro ⟨m, hm, rfl, rfl⟩
    obtain ⟨htext, -, hmatch⟩ := mem_search hm
    exact ⟨htext, hsound m hmatch⟩
  · rintro ⟨htext, letters, hrun, hholds⟩
    obtain ⟨m, hm⟩ := hcomplete start letters stop hrun hholds
    have hstart := start_of_matchAt? hm
    have htakes : start.offset < m.stop.offset := by
      rw [← hstart] at hm ⊢
      obtain ⟨s, hs, -⟩ := hsound m hm
      exact hs.offset_lt
    obtain ⟨n, hn, hle, hlt⟩ := covered_by_search htext hm htakes
    -- the match that covers the place is a word too, so it is the word that begins there
    obtain ⟨hntext, -, hmatch⟩ := mem_search hn
    obtain ⟨s, hs, -⟩ := hsound n hmatch
    obtain ⟨hnstart, -, hnstop⟩ := hrun.eq_of_overlap hs (htext.trans hntext.symm) hlt
      (Nat.lt_of_le_of_lt hle hrun.offset_lt)
    exact ⟨n, hn, hnstart, hnstop⟩

end KeywordGrammar
