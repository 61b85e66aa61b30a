/-
# Matches of whole words

The pattern for a set of terms tries its branches in their order, and goes back to the next one if no
word boundary follows.  So what it finds at a place is the first of its terms that stands there up to
case and ends on a boundary (`matchAt?_wholeWord`), and nothing where no boundary is.

If the terms are words themselves, nothing of the order of the branches is left to see: at a place
there is at most one stretch of word characters between two boundaries, the word that begins there.
That is why the matches in a text are exactly the words that some term is alike up to case
(`mem_search_wholeWord_iff_alike`), and the words whose folding is a term if the terms are folded
(`mem_search_wholeWord_iff`).
-/
import KeywordGrammar.Proofs.Alternations
import KeywordGrammar.Proofs.Words

namespace KeywordGrammar

open Unicode

/-! ## 1. Terms at a place -/

/-- Where a term ends that stands at a place up to case, if a word boundary follows it. -/
def Place.endOf? (p : Place) (term : List Char) : Option Place :=
  (p.skip? (!term.isEmpty) term).filter Place.isBoundary

theorem forall₂_sameChar_iff {term s : List Char} :
    List.Forall₂ (fun l c => sameChar (!term.isEmpty) l c = true) term s ↔
      s.map fold = term.map fold := by
  cases term with
  | nil => simp
  | cons l term =>
    have hsame : ∀ l c, sameChar true l c = true ↔ fold l = fold c := by
      intro l c
      simp [sameChar]
    simp only [List.isEmpty_cons, Bool.not_false, hsame]
    rw [eq_comm, ← List.forall₂_eq_eq_eq, List.forall₂_map_left_iff, List.forall₂_map_right_iff]

/-- What stands at a place where a term is found has the same folding as the term. -/
theorem Place.endOf?_eq_some_iff {p q : Place} {term : List Char} :
    p.endOf? term = some q ↔
      q.isBoundary = true ∧ ∃ s, p.Leads s q ∧ s.map fold = term.map fold := by
  simp only [endOf?, Option.filter_eq_some_iff, skip?_eq_some_iff, forall₂_sameChar_iff]
  rw [and_comm]

/-! ## 2. Terms that are words -/

/-- Whether a term is a word. -/
structure IsWordTerm (t : String) : Prop where
  ne_nil : t.toList ≠ []
  word : ∀ c ∈ t.toList, isWord c = true

theorem isWordTerm_iff {t : String} :
    IsWordTerm t ↔ (!t.toList.isEmpty && t.toList.all isWord) = true := by
  simp only [Bool.and_eq_true, Bool.not_eq_true', List.isEmpty_eq_false_iff, List.all_eq_true]
  exact ⟨fun h => ⟨h.ne_nil, h.word⟩, fun h => ⟨h.1, h.2⟩⟩

instance (t : String) : Decidable (IsWordTerm t) := decidable_of_iff _ isWordTerm_iff.symm

/-- Whether a term is a word in the form that folding leaves as it is. -/
structure IsFoldedWord (t : String) : Prop where
  ne_nil : t.toList ≠ []
  word : ∀ c ∈ t.toList, isWord c = true
  folded : ∀ c ∈ t.toList, fold c = c

theorem IsFoldedWord.isWordTerm {t : String} (h : IsFoldedWord t) : IsWordTerm t := ⟨h.ne_nil, h.word⟩

/-- What stands where such a term is found up to case folds to the term. -/
theorem IsFoldedWord.map_fold {t : String} (h : IsFoldedWord t) : t.toList.map fold = t.toList := by
  have hid : t.toList.map fold = t.toList.map id := List.map_congr_left h.folded
  rw [hid, List.map_id]

theorem isFoldedWord_iff {t : String} : IsFoldedWord t ↔
    (!t.toList.isEmpty && t.toList.all (fun c => isWord c && fold c == c)) = true := by
  simp only [Bool.and_eq_true, Bool.not_eq_true', List.isEmpty_eq_false_iff, List.all_eq_true,
    beq_iff_eq]
  constructor
  · intro h
    exact ⟨h.ne_nil, fun c hc => ⟨h.word c hc, h.folded c hc⟩⟩
  · rintro ⟨hne, h⟩
    exact ⟨hne, fun c hc => (h c hc).1, fun c hc => (h c hc).2⟩

instance (t : String) : Decidable (IsFoldedWord t) := decidable_of_iff _ isFoldedWord_iff.symm

/-- The long s and the final sigma are folded away, a point is no word character. -/
example : IsFoldedWord "straße_7" ∧ ¬ IsFoldedWord "Tank" ∧ ¬ IsFoldedWord "ſ" ∧
    ¬ IsFoldedWord "ας" ∧ ¬ IsFoldedWord "a.b" := by decide +kernel

/-! ## 3. The first term that ends on a boundary -/

namespace Pattern

/-- The branches are followed in their order. -/
theorem ways_oneOf (w : Way) : ∀ {branches : List Pattern}, branches ≠ [] →
    (oneOf branches).ways w = branches.flatMap (fun p => p.ways w)
  | [], h => absurd rfl h
  | [p], _ => by simp [oneOf]
  | p :: q :: rest, _ => by
    have honeOf : oneOf (p :: q :: rest) = either p (oneOf (q :: rest)) := rfl
    have hrest := ways_oneOf w (List.cons_ne_nil q rest)
    rw [honeOf, ways, hrest]
    rfl

theorem ways_wholeWord {terms : List String} (h : terms ≠ []) (p : Place) :
    (wholeWord terms).ways ⟨p, []⟩ =
      if p.isBoundary then
        (terms.filterMap (fun t => p.endOf? t.toList)).map (fun q => ⟨q, [⟨1, p, q⟩]⟩)
      else [] := by
  have hbranches : terms.map (fun t => ofTerm t.toList) ≠ [] := by simpa using h
  by_cases hp : p.isBoundary = true
  · -- one branch leads to the end of its term, if a boundary is there
    have hterm : ∀ t : String,
        (((ofTerm t.toList).ways ⟨p, []⟩).map
            (fun v => { v with captures := ⟨1, p, v.place⟩ :: v.captures })).flatMap
              (anchor .wordBoundary).ways =
          ((p.endOf? t.toList).map (fun q => (⟨q, [⟨1, p, q⟩]⟩ : Way))).toList := by
      intro t
      rw [ofTerm, ways, Place.endOf?]
      cases p.skip? (!t.toList.isEmpty) t.toList with
      | none => rfl
      | some q => by_cases hq : q.isBoundary = true <;> simp [ways, Anchor.holds, Option.filter, hq]
    rw [if_pos hp, List.map_filterMap, List.filterMap_eq_flatMap_toList]
    simp only [← hterm]
    rw [wholeWord, ways, ways, Anchor.holds, if_pos hp, List.flatMap_singleton, ways, ways,
      ways_oneOf _ hbranches, List.map_flatMap, List.flatMap_assoc]
    exact List.flatMap_map _ _ terms
  · simp [wholeWord, ways, Anchor.holds, hp]

/-- **At a place, the first term is found that stands there and ends on a boundary.** -/
theorem matchAt?_wholeWord {terms : List String} (h : terms ≠ []) (p : Place) :
    (wholeWord terms).matchAt? p =
      if p.isBoundary then
        (terms.findSome? (fun t => p.endOf? t.toList)).map (fun q => ⟨p, q, [⟨1, p, q⟩]⟩)
      else none := by
  rw [matchAt?, firstWay_eq, ways_wholeWord h]
  split
  · have hfirst : ∀ l : List Place,
        (l.map (fun q => (⟨q, [⟨1, p, q⟩]⟩ : Way))).findSome?
            (fun w => some (⟨p, w.place, w.captures⟩ : Match)) =
          l.head?.map (fun q => ⟨p, q, [⟨1, p, q⟩]⟩) := by
      intro l
      cases l <;> rfl
    rw [hfirst, List.head?_filterMap]
  · rfl

/-! ## 4. Matches of word terms -/

/-- The match of a place is a word that some term is alike up to case. -/
theorem isWordRun_of_matchAt? {terms : List String} (hne : terms ≠ [])
    (hterms : ∀ t ∈ terms, IsWordTerm t) {m : Match}
    (h : (wholeWord terms).matchAt? m.start = some m) :
    ∃ letters, m.start.IsWordRun letters m.stop ∧
      ∃ t ∈ terms, t.toList.map fold = letters.map fold := by
  rw [matchAt?_wholeWord hne] at h
  split at h
  · rename_i hstart
    obtain ⟨q, hq, hm⟩ := Option.map_eq_some_iff.mp h
    obtain ⟨t, ht, hend⟩ := List.exists_of_findSome?_eq_some hq
    have hstop : m.stop = q := by rw [← hm]
    obtain ⟨hboundary, s, hleads, hfold⟩ := Place.endOf?_eq_some_iff.mp hend
    have hs : s ≠ [] := by
      rintro rfl
      exact (hterms t ht).ne_nil (List.map_eq_nil_iff.mp hfold.symm)
    have hword : ∀ c ∈ s, isWord c = true := by
      intro c hc
      have hmem : fold c ∈ t.toList.map fold := hfold ▸ List.mem_map_of_mem hc
      obtain ⟨d, hd, hdc⟩ := List.mem_map.mp hmem
      rw [← isWord_fold, ← hdc, isWord_fold]
      exact (hterms t ht).word d hd
    rw [hstop]
    exact ⟨s, Place.isWordRun_iff.mpr ⟨hleads, hs, hword, hstart, hboundary⟩, t, ht, hfold.symm⟩
  · cases h

/-- Where a word begins that some term is alike up to case, some match begins. -/
theorem exists_matchAt?_of_isWordRun {terms : List String} {p q : Place} {letters : List Char}
    {t : String} (h : p.IsWordRun letters q) (hmem : t ∈ terms)
    (halike : t.toList.map fold = letters.map fold) :
    ∃ m, (wholeWord terms).matchAt? p = some m := by
  obtain ⟨hleads, -, -, hp, hq⟩ := Place.isWordRun_iff.mp h
  have hend : p.endOf? t.toList = some q :=
    Place.endOf?_eq_some_iff.mpr ⟨hq, letters, hleads, halike.symm⟩
  rw [matchAt?_wholeWord (List.ne_nil_of_mem hmem), if_pos hp]
  cases hfirst : terms.findSome? (fun t => p.endOf? t.toList) with
  | none =>
    have := List.findSome?_eq_none_iff.mp hfirst _ hmem
    rw [hend] at this
    cases this
  | some r => exact ⟨_, rfl⟩

/-- **The matches of word terms are exactly the words that some term is alike up to case.** -/
theorem mem_search_wholeWord_iff_alike {terms : List String} (hne : terms ≠ [])
    (hterms : ∀ t ∈ terms, IsWordTerm t) {text : String} {p q : Place} :
    (∃ m ∈ (wholeWord terms).search text, m.start = p ∧ m.stop = q) ↔
      p.text = text.toList ∧
        ∃ letters, p.IsWordRun letters q ∧ ∃ t ∈ terms, t.toList.map fold = letters.map fold := by
  refine mem_search_iff_word (fun m hm => isWordRun_of_matchAt? hne hterms hm) ?_
  rintro start letters stop hrun ⟨t, ht, halike⟩
  exact exists_matchAt?_of_isWordRun hrun ht halike

/-- The matches of folded words are exactly the words whose folding is a term. -/
theorem mem_search_wholeWord_iff {terms : List String} (hne : terms ≠ [])
    (hterms : ∀ t ∈ terms, IsFoldedWord t) {text : String} {p q : Place} :
    (∃ m ∈ (wholeWord terms).search text, m.start = p ∧ m.stop = q) ↔
      p.text = text.toList ∧
        ∃ letters, p.IsWordRun letters q ∧ String.ofList (letters.map fold) ∈ terms := by
  have halike : ∀ letters : List Char, (∃ t ∈ terms, t.toList.map fold = letters.map fold) ↔
      String.ofList (letters.map fold) ∈ terms := by
    intro letters
    constructor
    · rintro ⟨t, ht, hfold⟩
      rw [(hterms t ht).map_fold] at hfold
      rw [← hfold, String.ofList_toList]
      exact ht
    · intro hmem
      refine ⟨_, hmem, ?_⟩
      have hfold := (hterms _ hmem).map_fold
      rwa [String.toList_ofList] at hfold ⊢
  simp only [mem_search_wholeWord_iff_alike hne (fun t ht => (hterms t ht).isWordTerm), halike]

end Pattern

end KeywordGrammar
