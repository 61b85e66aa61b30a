/-
# Reading the pattern for a set of terms

`alternation` writes a pattern as text, and a rule reads that text again before it can be used.  This
file follows the reader through it:

* `readFrom_escapedTerm`: an escaped term is read as its characters and nothing else;
* `readFrom_branches`: the terms become the branches of the open group, one for each;
* `read_alternation`: what is read is `wholeWord`, whatever the terms are.

So the pattern for a set of terms is never malformed; only its size can keep it from being used.
Where the parts of the pattern are written does not matter to its meaning, so the trees are described
up to their stretches.
-/
import KeywordGrammar.Pattern.Alternation
import KeywordGrammar.Pattern.Reading
import Mathlib.Data.List.Forall2

namespace KeywordGrammar

namespace Pattern

/-! ## 1. What an alternation says -/

/-- One of the terms, regardless of case.  A term without characters leaves nothing to compare. -/
def ofTerm (term : List Char) : Pattern := .literal (!term.isEmpty) term

/-- One of some terms between word boundaries; the terms make up the first group. -/
def wholeWord (terms : List String) : Pattern :=
  .seq (.anchor .wordBoundary)
    (.seq (.group 1 (oneOf (terms.map (fun t => ofTerm t.toList)))) (.anchor .wordBoundary))

/-! ## 2. The branches as trees -/

/-- Flags under which letters stand for both cases, as rules for terms use them. -/
def Flags.anyCase : Flags := { Flags.start with caseless := true }

/-- The part that one letter becomes. -/
def Letter (c : Char) (t : Tree) : Prop :=
  ∃ written, t = .leaf .anyCase (.simple (.letter c false)) written

/-- The branch that a term becomes. -/
def Branch (term : List Char) (t : Tree) : Prop :=
  ∃ letters start stop, List.Forall₂ Letter term letters ∧ t = .inSequence start stop letters

/-! ## 3. Following the reader -/

/-- An escaped term is read as its letters. -/
theorem readFrom_escapedTerm (rest : List Char) : ∀ (term : List Char) (s : State) (place : Nat),
    s.flags = .anyCase → ∃ letters place', List.Forall₂ Letter term letters ∧
      readFrom s place 0 (escapedTerm term ++ rest) =
        readFrom { s with parts := letters.reverse ++ s.parts } place' 0 rest
  | [], s, place, _ => ⟨[], place, .nil, rfl⟩
  | c :: term, s, place, hflags => by
    have hverbose : s.flags.verbose = false := by rw [hflags]; rfl
    -- however the letter is written, the reader goes on behind it with one more part
    have hone : ∃ width, readFrom s place 0 (escapedTerm (c :: term) ++ rest) =
        readFrom (s.pushLetter c place (place + width)) (place + width) 0
          (escapedTerm term ++ rest) := by
      by_cases hc : isSyntax c = true
      · refine ⟨2, ?_⟩
        simp only [escapedTerm, List.flatMap_cons, hc, if_true, List.cons_append, List.nil_append]
        exact readFrom_escaped hverbose hc place _
      · rw [Bool.not_eq_true] at hc
        refine ⟨1, ?_⟩
        simp only [escapedTerm, List.flatMap_cons, hc, Bool.false_eq_true, if_false,
          List.cons_append, List.nil_append]
        exact readFrom_letter hverbose hc place _
    obtain ⟨width, hone⟩ := hone
    obtain ⟨letters, place', hletters, hread⟩ :=
      readFrom_escapedTerm rest term (s.pushLetter c place (place + width)) (place + width) hflags
    refine ⟨.leaf s.flags (.simple (.letter c false)) ⟨place, place + width⟩ :: letters, place',
      .cons ⟨_, by rw [hflags]⟩ hletters, ?_⟩
    rw [hone, hread]
    simp [State.pushLetter, State.pushAtom, State.push]

theorem readFrom_bar {s : State} (h : s.flags.verbose = false) (place : Nat) (rest : List Char) :
    readFrom s place 0 ('|' :: rest) = readFrom (s.nextBranch place) (place + 1) 0 rest := by
  simp [readFrom, State.step, h]

theorem readFrom_close {s : State} (h : s.flags.verbose = false) {o : Outer} {others : List Outer}
    (ho : s.outer = o :: others) (place : Nat) (rest : List Char) :
    readFrom s place 0 (')' :: rest) =
      readFrom { s with
        flags := o.flags, bodyStart := o.bodyStart, branchStart := o.branchStart
        branches := o.branches
        parts := .group o.index (s.body place) ⟨o.openedAt, place + 1⟩ :: o.parts
        outer := others } (place + 1) 0 rest := by
  simp [readFrom, State.step, h, State.closeGroup, ho, Except.map]

/-- Terms with bars between them are read as branches. -/
theorem readFrom_branches (rest : List Char) : ∀ (first : List Char) (others : List (List Char))
    (s : State) (place : Nat), s.flags = .anyCase → s.parts = [] →
    ∃ s' place' trees, List.Forall₂ Branch (first :: others) trees ∧
      readFrom s place 0
          (List.intercalate ['|'] ((first :: others).map escapedTerm) ++ rest) =
        readFrom s' place' 0 rest ∧
      s'.flags = .anyCase ∧ s'.outer = s.outer ∧
      (s'.branch place' :: s'.branches).reverse = s.branches.reverse ++ trees
  | first, [], s, place, hflags, hparts => by
    obtain ⟨letters, place', hletters, hread⟩ := readFrom_escapedTerm rest first s place hflags
    refine ⟨{ s with parts := letters.reverse ++ s.parts }, place',
      [.inSequence s.branchStart place' letters], .cons ⟨letters, _, _, hletters, rfl⟩ .nil, ?_,
      hflags, rfl, ?_⟩
    · simpa using hread
    · simp [State.branch, hparts]
  | first, second :: others, s, place, hflags, hparts => by
    -- the first term and its bar lead to the same situation with one more finished branch
    obtain ⟨letters, mid, hletters, hread⟩ := readFrom_escapedTerm
      ('|' :: (List.intercalate ['|'] ((second :: others).map escapedTerm) ++ rest))
      first s place hflags
    have hverbose : s.flags.verbose = false := by rw [hflags]; rfl
    rw [readFrom_bar (by exact hverbose)] at hread
    obtain ⟨s', place', trees, htrees, hread', hflags', houter, hbranches⟩ :=
      readFrom_branches rest second others
        (State.nextBranch { s with parts := letters.reverse ++ s.parts } mid) (mid + 1) hflags rfl
    refine ⟨s', place', .inSequence s.branchStart mid letters :: trees,
      .cons ⟨letters, _, _, hletters, rfl⟩ htrees, ?_, hflags', houter, ?_⟩
    · rw [← hread', ← hread]
      simp [List.intercalate_cons_cons]
    · rw [hbranches]
      simp [State.nextBranch, State.branch, hparts]

/-- A group that does not start with a question mark has a number and no name. -/
theorem Opening.read_of_head {body : List Char} (h : body.head? ≠ some '?') (start place : Nat) :
    Opening.read false start ⟨place, body⟩ = .ok (.numbered none, ⟨place, body⟩) := by
  have hskip : Cursor.skipGap ⟨place, body⟩ false = ⟨place, body⟩ := by
    simp [Cursor.skipGap, Cursor.skip, gap]
  have hmark : ∀ mark : String, mark.toList.head? = some '?' →
      Cursor.skipText? ⟨place, body⟩ mark = none := by
    intro mark hm
    refine if_neg (fun hprefix => h ?_)
    obtain ⟨rest, hrest⟩ := List.isPrefixOf_iff_prefix.mp hprefix
    simp only at hrest
    rw [← hrest, List.head?_append, hm]
    rfl
  have hlook : lookMarks.findSome? (Cursor.skipText? ⟨place, body⟩) = none := by
    rw [List.findSome?_eq_none_iff]
    intro mark hm
    simp only [lookMarks, List.mem_cons, List.not_mem_nil, or_false] at hm
    rcases hm with rfl | rfl | rfl | rfl <;> exact hmark _ rfl
  rw [Opening.read, hskip, hlook, hmark _ rfl, hmark _ rfl]
  cases body with
  | nil => rfl
  | cons c rest =>
    have hc : c ≠ '?' := fun hc => h (by rw [hc]; rfl)
    simp [hc]

/-- No term puts a question mark at the front of its group, since it would be escaped. -/
theorem head?_branches (first : List Char) (others : List (List Char)) (rest : List Char) :
    (List.intercalate ['|'] ((first :: others).map escapedTerm) ++ ')' :: rest).head? ≠ some '?' := by
  have hterm : ∀ behind : List Char, behind.head? ≠ some '?' →
      (escapedTerm first ++ behind).head? ≠ some '?' := by
    intro behind hbehind
    cases first with
    | nil => exact hbehind
    | cons c term =>
      by_cases hc : isSyntax c = true
      · simp [escapedTerm, hc]
      · have hne : c ≠ '?' := by
          rintro rfl
          exact hc rfl
        simp [escapedTerm, hc, hne]
  cases others with
  | nil => simpa using hterm (')' :: rest) (by simp)
  | cons second others =>
    simp only [List.map_cons, List.intercalate_cons_cons, List.append_assoc]
    exact hterm _ (by simp)

/-! ## 4. The whole text -/

/-- What the text in front of the branches leads to: a group that is open behind two parts. -/
def openedAlternation : State :=
  { flags := .anyCase, groups := 1, names := [], bodyStart := 7, branchStart := 7, branches := []
    parts := []
    outer := [⟨6, some 1, .anyCase, 0, 0, [],
      [.leaf .anyCase (.simple (.condition (.word .edge))) ⟨4, 6⟩, .nothing]⟩] }

theorem readFrom_front {body : List Char} (h : body.head? ≠ some '?') :
    readFrom .start 0 0 ("(?i)\\b(".toList ++ body) = readFrom openedAlternation 7 0 body := by
  have hgroup : ∀ s : State, s.flags = .anyCase →
      readFrom s 6 0 ('(' :: body) = readFrom (s.enterNumbered 6 7) 7 0 body := by
    intro s hs
    have hverbose : s.flags.verbose = false := by rw [hs]; rfl
    simp [readFrom, State.step, hverbose, Opening.read_of_head h, State.openGroup, bind,
      Except.bind, pure, Except.pure]
  have hfront : readFrom .start 0 0 ("(?i)\\b(".toList ++ body) =
      readFrom { State.start with
        flags := .anyCase
        parts := [.leaf .anyCase (.simple (.condition (.word .edge))) ⟨4, 6⟩, .nothing] }
        6 0 ('(' :: body) := rfl
  rw [hfront, hgroup _ rfl]
  rfl

/-- The tree of an alternation with some branches, up to where its parts are written. -/
def AlternationTree (trees : List Tree) (t : Tree) : Prop :=
  ∃ first start stop group last whole, t = .seq
    [.nothing, .leaf .anyCase (.simple (.condition (.word .edge))) first,
      .group (some 1) (.oneOf start stop trees) group,
      .leaf .anyCase (.simple (.condition (.word .edge))) last] whole

theorem readFrom_boundary {s : State} (h : s.flags = .anyCase) (place : Nat) :
    readFrom s place 0 ['\\', 'b'] =
      (s.pushAtom (.simple (.condition (.word .edge))) place (place + 2)).finish (place + 2) := by
  have hverbose : s.flags.verbose = false := by rw [h]; rfl
  have hescape : readEscape false place ['b'] =
      .ok (.condition (.word .edge), ⟨place + 2, []⟩) := rfl
  simp [readFrom, State.step, hverbose, hescape, bind, Except.bind, pure, Except.pure]

/-- What follows the branches closes their group and ends the text. -/
theorem readFrom_back {s : State} {place : Nat} {trees : List Tree} (hflags : s.flags = .anyCase)
    (houter : s.outer = openedAlternation.outer)
    (hbranches : (s.branch place :: s.branches).reverse = trees) :
    ∃ t, AlternationTree trees t ∧ readFrom s place 0 [')', '\\', 'b'] = .ok t := by
  have hverbose : s.flags.verbose = false := by rw [hflags]; rfl
  have hread : readFrom s place 0 [')', '\\', 'b'] = .ok (.seq
      [.nothing, .leaf .anyCase (.simple (.condition (.word .edge))) ⟨4, 6⟩,
        .group (some 1) (.oneOf s.bodyStart place trees) ⟨6, place + 1⟩,
        .leaf .anyCase (.simple (.condition (.word .edge))) ⟨place + 1, place + 3⟩]
      ⟨0, place + 3⟩) := by
    rw [readFrom_close hverbose houter, readFrom_boundary rfl, State.body, hbranches]
    rfl
  exact ⟨_, ⟨_, _, _, _, _, _, rfl⟩, hread⟩

theorem readFrom_alternation (first : String) (others : List String) :
    ∃ trees t, List.Forall₂ Branch ((first :: others).map String.toList) trees ∧
      AlternationTree trees t ∧
      readFrom .start 0 0 (alternation (first :: others)).toList = .ok t := by
  have htext : (alternation (first :: others)).toList = "(?i)\\b(".toList ++
      (List.intercalate ['|'] (((first :: others).map String.toList).map escapedTerm) ++
        [')', '\\', 'b']) := by
    have hend : ")\\b".toList = [')', '\\', 'b'] := rfl
    unfold alternation
    generalize "(?i)\\b(".toList = front
    rw [String.toList_ofList, List.map_map, List.append_assoc, hend]
    rfl
  obtain ⟨s', place', trees, htrees, hread, hflags, houter, hbranches⟩ :=
    readFrom_branches [')', '\\', 'b'] first.toList (others.map String.toList) openedAlternation 7
      rfl rfl
  obtain ⟨t, ht, hback⟩ := readFrom_back hflags houter hbranches
  refine ⟨trees, t, htrees, ht, ?_⟩
  rw [htext, List.map_cons,
    readFrom_front (head?_branches first.toList (others.map String.toList) ['\\', 'b'])]
  exact hread.trans hback

/-! ## 5. What has been read -/

theorem ofTree_letter {c : Char} {t : Tree} (h : Letter c t) : ofTree t = .literal true [c] := by
  obtain ⟨written, rfl⟩ := h
  rfl

/-- Letters in a row are put together. -/
theorem foldl_before_letters : ∀ {term : List Char} {letters : List Tree},
    List.Forall₂ Letter term letters → term ≠ [] →
    (letters.map ofTree).foldr before [] = [.literal true term]
  | _, _, .nil, h => absurd rfl h
  | _, _, .cons hc .nil, _ => by
    rw [List.map_singleton, ofTree_letter hc]
    rfl
  | _, _, .cons hc (.cons hd hrest), _ => by
    rw [List.map_cons, List.foldr_cons, foldl_before_letters (.cons hd hrest) (by simp),
      ofTree_letter hc]
    rfl

theorem ofTree_seq (parts : List Tree) (written : Stretch) :
    ofTree (.seq parts written) = inSequence ((parts.map ofTree).foldr before []) := by
  rw [ofTree, ofTreesOnto_eq, List.append_nil, List.foldl_reverse]

theorem ofTree_oneOf (start stop : Nat) (trees : List Tree) :
    ofTree (.oneOf start stop trees) = oneOf (trees.map ofTree) := by
  have heither : ofTree (.either trees ⟨start, stop⟩) = oneOf (trees.map ofTree) := by
    rw [ofTree, ofTreesOnto_eq, List.append_nil, List.reverse_reverse]
  unfold Tree.oneOf
  split
  · rfl
  · exact heither

theorem ofTree_branch {term : List Char} {t : Tree} (h : Branch term t) :
    ofTree t = ofTerm term := by
  obtain ⟨letters, start, stop, hletters, rfl⟩ := h
  cases hletters with
  | nil => rfl
  | cons hc hrest =>
    cases hrest with
    | nil => exact ofTree_letter hc
    | cons hd hrest =>
      refine (ofTree_seq _ _).trans ?_
      rw [foldl_before_letters (.cons hc (.cons hd hrest)) (by simp)]
      rfl

theorem map_ofTree_branches {terms : List (List Char)} {trees : List Tree}
    (h : List.Forall₂ Branch terms trees) : trees.map ofTree = terms.map ofTerm := by
  induction h with
  | nil => rfl
  | cons hbranch _ ih => rw [List.map_cons, List.map_cons, ih, ofTree_branch hbranch]

theorem ofTree_alternation {terms : List String} {trees : List Tree} {t : Tree}
    (htrees : List.Forall₂ Branch (terms.map String.toList) trees) (h : AlternationTree trees t) :
    ofTree t = wholeWord terms := by
  obtain ⟨first, start, stop, group, last, whole, rfl⟩ := h
  have hbranches : trees.map ofTree = terms.map (fun t => ofTerm t.toList) := by
    rw [map_ofTree_branches htrees, List.map_map]
    rfl
  rw [ofTree_seq, wholeWord, ← hbranches, ← ofTree_oneOf start stop]
  rfl

/-! ## 6. Its nesting and its shape -/

theorem forall_mem_of_forall₂ {α : Type} {R : α → Tree → Prop} {P : Tree → Prop}
    (hR : ∀ a t, R a t → P t) {l : List α} {trees : List Tree} (h : List.Forall₂ R l trees) :
    ∀ t ∈ trees, P t := by
  induction h with
  | nil => intro t ht; cases ht
  | cons hr _ ih =>
    intro t ht
    rcases List.mem_cons.mp ht with rfl | ht
    · exact hR _ _ hr
    · exact ih t ht

/-- Parts of which none is nested too deep. -/
theorem firstTooDeep?_eq_none {depth : Nat} : ∀ {trees : List Tree},
    (∀ t ∈ trees, t.tooDeep? depth = none) → Tree.firstTooDeep? depth trees = none
  | [], _ => rfl
  | t :: rest, h => by
    rw [Tree.firstTooDeep?, h t List.mem_cons_self,
      firstTooDeep?_eq_none (fun t ht => h t (List.mem_cons_of_mem _ ht))]

theorem tooDeep?_letter (depth : Nat) (c : Char) (t : Tree) (h : Letter c t) :
    t.tooDeep? depth = none := by
  obtain ⟨written, rfl⟩ := h
  rfl

theorem tooDeep?_branch {depth : Nat} (hdepth : depth < nestingLimit) (term : List Char) (t : Tree)
    (h : Branch term t) : t.tooDeep? depth = none := by
  obtain ⟨letters, start, stop, hletters, rfl⟩ := h
  have hdeep := fun depth => forall_mem_of_forall₂ (tooDeep?_letter depth) hletters
  unfold Tree.inSequence
  split
  · rfl
  · exact hdeep depth _ List.mem_cons_self
  · rw [Tree.tooDeep?, if_neg (Nat.not_le.mpr hdepth), firstTooDeep?_eq_none (hdeep (depth + 1))]

/-- The letters of an alternation are nested in four parts at most. -/
theorem shallow_alternation {terms : List (List Char)} {trees : List Tree} {t : Tree}
    (htrees : List.Forall₂ Branch terms trees) (h : AlternationTree trees t) :
    t.shallow = .ok t := by
  obtain ⟨first, start, stop, group, last, whole, rfl⟩ := h
  have hdeep : ∀ {depth}, depth < nestingLimit → ∀ t ∈ trees, t.tooDeep? depth = none :=
    fun hdepth => forall_mem_of_forall₂ (tooDeep?_branch hdepth) htrees
  have hinner : (Tree.oneOf start stop trees).tooDeep? 2 = none := by
    unfold Tree.oneOf
    split
    · exact hdeep (by decide) _ List.mem_cons_self
    · have hbranches := firstTooDeep?_eq_none (hdeep (show 3 < nestingLimit by decide))
      simp [Tree.tooDeep?, nestingLimit, hbranches]
  simp [Tree.shallow, Tree.tooDeep?, Tree.firstTooDeep?, nestingLimit, hinner]

/-- The shape of a term, by the shapes of its letters. -/
def Shape.ofTerm (letter : Char → Shape) (term : List Char) : Shape := inSequence (term.map letter)

/-- The shape of one of some terms between word boundaries, by the shapes of letters. -/
def Shape.wholeWord (letter : Char → Shape) (terms : List (List Char)) : Shape :=
  let inner := match terms.map (ofTerm letter) with
    | [p] => p
    | branches => oneOf branches
  inSequence [.empty, .look (.word .edge true), .group 1 inner, .look (.word .edge true)]

/-- Parts with a shape each have their shapes together. -/
theorem ofTreesOnto_of_forall₂ {α : Type} {R : α → Tree → Prop} {f : α → Shape}
    (hR : ∀ a t, R a t → Shape.ofTree t = .ok (f a)) {l : List α} {trees : List Tree}
    (h : List.Forall₂ R l trees) :
    ∀ found, Shape.ofTreesOnto found trees = .ok (found.reverse ++ l.map f) := by
  induction h with
  | nil => exact fun found => by rw [Shape.ofTreesOnto, List.map_nil, List.append_nil]
  | cons hr _ ih =>
    intro found
    rw [Shape.ofTreesOnto, hR _ _ hr]
    simp only [ih, List.reverse_cons, List.append_assoc, List.map_cons, List.singleton_append]

theorem shape_letter (c : Char) (t : Tree) (h : Letter c t) :
    Shape.ofTree t = .ok (.ofLetter .anyCase c) := by
  obtain ⟨written, rfl⟩ := h
  rfl

theorem inSequence_letter (f : Flags) (c : Char) :
    Shape.inSequence [.ofLetter f c] = .ofLetter f c := by
  unfold Shape.ofLetter
  repeat' split
  all_goals rfl

theorem shape_branch (term : List Char) (t : Tree) (h : Branch term t) :
    Shape.ofTree t = .ok (.ofTerm (.ofLetter .anyCase) term) := by
  obtain ⟨letters, start, stop, hletters, rfl⟩ := h
  cases hletters with
  | nil => rfl
  | cons hc hrest =>
    cases hrest with
    | nil => rw [Shape.ofTerm, List.map_singleton, inSequence_letter]; exact shape_letter _ _ hc
    | cons hd hrest =>
      have hshapes := ofTreesOnto_of_forall₂ shape_letter (.cons hc (.cons hd hrest)) []
      rw [Tree.inSequence, Shape.ofTree, hshapes]
      · rfl
      · simp
      · simp

theorem shape_alternation {terms : List (List Char)} {trees : List Tree} {t : Tree}
    (htrees : List.Forall₂ Branch terms trees) (h : AlternationTree trees t) :
    Shape.ofTree t = .ok (.wholeWord (.ofLetter .anyCase) terms) := by
  obtain ⟨first, start, stop, group, last, whole, rfl⟩ := h
  have hinner : Shape.ofTree (.oneOf start stop trees) =
      .ok (match terms.map (Shape.ofTerm (.ofLetter .anyCase)) with
        | [p] => p
        | branches => .oneOf branches) := by
    cases htrees with
    | nil => rfl
    | cons hfirst hrest =>
      cases hrest with
      | nil => exact shape_branch _ _ hfirst
      | cons hsecond hrest =>
        have hshapes := ofTreesOnto_of_forall₂ shape_branch (.cons hfirst (.cons hsecond hrest)) []
        rw [Tree.oneOf, Shape.ofTree, hshapes]
        · rfl
        · simp
  simp only [Shape.ofTree, Shape.ofTreesOnto, hinner]
  rfl

/-! ## 7. The whole way -/

/-- The pattern that is written for some terms is read as an alternation with a branch for each. -/
theorem tree_read_alternation {terms : List String} (h : terms ≠ []) :
    ∃ trees t, List.Forall₂ Branch (terms.map String.toList) trees ∧ AlternationTree trees t ∧
      Tree.read (alternation terms) = .ok t := by
  obtain ⟨first, others, rfl⟩ := List.exists_cons_of_ne_nil h
  obtain ⟨trees, t, htrees, ht, hread⟩ := readFrom_alternation first others
  refine ⟨trees, t, htrees, ht, ?_⟩
  rw [Tree.read, hread]
  exact shallow_alternation htrees ht

/-- What is read from the pattern that is written for some terms. -/
theorem read_alternation_eq {terms : List String} (h : terms ≠ []) :
    Pattern.read (alternation terms) =
      .ok ⟨wholeWord terms, .wholeWord (.ofLetter .anyCase) (terms.map String.toList)⟩ := by
  obtain ⟨trees, t, htrees, ht, hread⟩ := tree_read_alternation h
  rw [Pattern.read, hread]
  simp only [shape_alternation htrees ht, ofTree_alternation htrees ht]
  rfl

/-- **The pattern that is written for some terms can be read, and it means one of these terms
between word boundaries.** -/
theorem read_alternation {terms : List String} (h : terms ≠ []) :
    ∃ shape, Pattern.read (alternation terms) = .ok ⟨wholeWord terms, shape⟩ :=
  ⟨_, read_alternation_eq h⟩

end Pattern

end KeywordGrammar
