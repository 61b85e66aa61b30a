/-
# Base directives

The first rule takes a whole text: the word `#base`, which may have a blank and quotes around it, then
blanks, then whatever the directive names.  Most of its parts may be missing, and some may take more or
less of the text.

That is no freedom in the end.  A match says that the text is a directive (`isDirective_of_matchAt?`);
and since a blank is no quote and neither begins the word, each part takes as much as it can in the way
that the search tries first (`matchAt?_directive`).  The blanks are taken whole, so what is named begins
with none.
-/
import KeywordGrammar.Proofs.GreedyRuns
import KeywordGrammar.Proofs.RuleLists

namespace KeywordGrammar

open Unicode

/-! ## 1. The form of a directive -/

/-- Whether some text is the word of a base directive, with at most a blank in front and with or without
either quote. -/
def IsBaseWord (head : List Char) : Prop :=
  ∃ space opening closing, head = space ++ opening ++ "#base".toList ++ closing ∧
    (space = [] ∨ ∃ c, isBlank c = true ∧ space = [c]) ∧ (opening = [] ∨ opening = ['"']) ∧
    (closing = [] ∨ closing = ['"'])

/-- Whether a text is a base directive of these parts: the word, all blanks behind it, and what it
names. -/
structure IsDirective (head blanks rest : List Char) : Prop where
  head : IsBaseWord head
  ne_nil : blanks ≠ []
  blank : ∀ c ∈ blanks, isBlank c = true
  rest : ∀ c ∈ rest.head?, isBlank c = false

/-- What is left of the blanks belongs to them. -/
theorem exists_isDirective {head blanks : List Char} (hhead : IsBaseWord head) (hne : blanks ≠ [])
    (hblank : ∀ c ∈ blanks, isBlank c = true) (rest : List Char) :
    ∃ blanks' rest', head ++ blanks ++ rest = head ++ blanks' ++ rest' ∧
      IsDirective head blanks' rest' := by
  refine ⟨blanks ++ rest.takeWhile isBlank, rest.dropWhile isBlank, ?_, hhead, by simp [hne], ?_, ?_⟩
  · simp only [List.append_assoc, List.takeWhile_append_dropWhile]
  · intro c hc
    rcases List.mem_append.mp hc with hc | hc
    · exact hblank c hc
    · exact List.all_eq_true.mp List.all_takeWhile c hc
  · intro c hc
    have hstop := List.head?_dropWhile_not isBlank rest
    rw [Option.mem_def.mp hc] at hstop
    exact hstop

/-! ## 2. The pattern -/

namespace Pattern

/-- The set of the quote. -/
def quote : CharSet := .exactly false '"'

/-- The pattern of the word. -/
def baseWord : Pattern :=
  seq (run .blank .atMostOne) (seq (run quote .atMostOne)
    (seq (literal false "#base".toList) (run quote .atMostOne)))

/-- The pattern of what is named. -/
def named : Pattern :=
  seq (run quote .atMostOne) (seq (run .inLine .any) (run quote .atMostOne))

/-- The pattern of a directive. -/
def directive : Pattern :=
  seq (anchor .textStart) (seq (group 1 baseWord) (seq (run .blank .atLeastOne)
    (seq (group 2 named) (anchor .textEnd))))

theorem contains_quote_iff {c : Char} : quote.contains c = true ↔ c = '"' := by
  simp only [quote, CharSet.contains, sameChar, Bool.false_eq_true, if_false, beq_iff_eq]
  exact eq_comm

theorem contains_quote_of_isBlank {c : Char} (h : isBlank c = true) : quote.contains c = false := by
  rw [Bool.eq_false_iff, Ne, contains_quote_iff]
  rintro rfl
  revert h
  decide

theorem length_le_one_iff {holds : Char → Prop} {s : List Char} :
    s.length ≤ 1 ∧ (∀ c ∈ s, holds c) ↔ s = [] ∨ ∃ c, holds c ∧ s = [c] := by
  match s with
  | [] => simp
  | [c] => simp
  | c :: d :: s => simp

theorem atMostOne_quote_iff {s : List Char} :
    s.length ≤ 1 ∧ (∀ c ∈ s, quote.contains c = true) ↔ s = [] ∨ s = ['"'] := by
  simp only [contains_quote_iff, length_le_one_iff, exists_eq_left]

/-! ## 3. The ways through it -/

variable {α : Type} {p q : Place} {captures : List Capture} {f : Way → Option α} {a : α}

theorem firstWay_baseWord_eq : baseWord.firstWay ⟨p, captures⟩ f =
    (p.reach .blank .atMostOne).findSome? (fun x => (x.reach quote .atMostOne).findSome? (fun y =>
      (y.skip? false "#base".toList).bind (fun z =>
        (z.reach quote .atMostOne).findSome? (fun w => f ⟨w, captures⟩)))) :=
  rfl

theorem firstWay_named_eq : named.firstWay ⟨p, captures⟩ f =
    (p.reach quote .atMostOne).findSome? (fun x => (x.reach .inLine .any).findSome? (fun y =>
      (y.reach quote .atMostOne).findSome? (fun z => f ⟨z, captures⟩))) :=
  rfl

/-- A way through the pattern of the word passes such a word. -/
theorem exists_of_firstWay_baseWord (h : baseWord.firstWay ⟨p, captures⟩ f = some a) :
    ∃ head q, IsBaseWord head ∧ p.Leads head q ∧ f ⟨q, captures⟩ = some a := by
  rw [firstWay_baseWord_eq] at h
  obtain ⟨x, hx, h⟩ := List.exists_of_findSome?_eq_some h
  obtain ⟨y, hy, h⟩ := List.exists_of_findSome?_eq_some h
  obtain ⟨z, hz, h⟩ := Option.bind_eq_some_iff.mp h
  obtain ⟨w, hw, h⟩ := List.exists_of_findSome?_eq_some h
  obtain ⟨space, hspace, hblank⟩ := Place.mem_reach_iff.mp hx
  obtain ⟨opening, hopening, hquote⟩ := Place.mem_reach_iff.mp hy
  obtain ⟨closing, hclosing, hquote'⟩ := Place.mem_reach_iff.mp hw
  have hword := Place.skip?_exact_iff.mp hz
  refine ⟨_, w, ⟨space, opening, closing, rfl, length_le_one_iff.mp hblank,
    atMostOne_quote_iff.mp hquote, atMostOne_quote_iff.mp hquote'⟩, ?_, h⟩
  exact ((hspace.trans hopening).trans hword).trans hclosing

/-- The word is passed first, if no quote stands behind it. -/
theorem firstWay_baseWord {head : List Char} (hhead : IsBaseWord head) (h : p.Leads head q)
    (hends : q.EndsRun quote) (ha : f ⟨q, captures⟩ = some a) :
    baseWord.firstWay ⟨p, captures⟩ f = some a := by
  obtain ⟨space, opening, closing, rfl, hspace, hopening, hclosing⟩ := hhead
  obtain ⟨z, h, hzq⟩ := Place.leads_append_iff.mp h
  obtain ⟨y, h, hyz⟩ := Place.leads_append_iff.mp h
  obtain ⟨x, hpx, hxy⟩ := Place.leads_append_iff.mp h
  have hy : y.EndsRun quote := Place.endsRun_of_after hyz.after (by decide)
  have hx : x.EndsRun .blank := by
    rcases hopening with rfl | rfl
    · rw [← hxy.eq_of_nil]
      exact Place.endsRun_of_after hyz.after (by decide)
    · exact Place.endsRun_of_after hxy.after (by decide)
  obtain ⟨hone, hset⟩ := length_le_one_iff.mpr hspace
  obtain ⟨hone', hset'⟩ := atMostOne_quote_iff.mpr hopening
  obtain ⟨hone'', hset''⟩ := atMostOne_quote_iff.mpr hclosing
  rw [firstWay_baseWord_eq]
  refine Place.findSome?_reach_of_farthest hpx hone hset (.inl hx) ?_
  refine Place.findSome?_reach_of_farthest hxy hone' hset' (.inl hy) ?_
  refine Option.bind_eq_some_iff.mpr ⟨z, Place.skip?_exact_iff.mpr hyz, ?_⟩
  exact Place.findSome?_reach_of_farthest hzq hone'' hset'' (.inl hends) ha

theorem exists_of_firstWay_named (h : named.firstWay ⟨p, captures⟩ f = some a) :
    ∃ rest q, p.Leads rest q ∧ f ⟨q, captures⟩ = some a := by
  rw [firstWay_named_eq] at h
  obtain ⟨x, hx, h⟩ := List.exists_of_findSome?_eq_some h
  obtain ⟨y, hy, h⟩ := List.exists_of_findSome?_eq_some h
  obtain ⟨z, hz, h⟩ := List.exists_of_findSome?_eq_some h
  obtain ⟨opening, hopening, -⟩ := Place.mem_reach_iff.mp hx
  obtain ⟨s, hs, -⟩ := Place.mem_reach_iff.mp hy
  obtain ⟨closing, hclosing, -⟩ := Place.mem_reach_iff.mp hz
  exact ⟨_, z, (hopening.trans hs).trans hclosing, h⟩

/-- The rest of a text is passed first, if it is of one line. -/
theorem firstWay_named {rest : List Char} (h : p.Leads rest q) (hrest : '\n' ∉ rest)
    (hq : q.after = []) (ha : f ⟨q, captures⟩ = some a) :
    named.firstWay ⟨p, captures⟩ f = some a := by
  have hq' := Place.endsRun_of_after_nil hq
  -- behind the first quote the rest of the line is taken, and no quote is left for the end
  have hline : ∀ (x : Place) (s : List Char), x.Leads s q → '\n' ∉ s →
      (x.reach .inLine .any).findSome? (fun y =>
        (y.reach quote .atMostOne).findSome? (fun z => f ⟨z, captures⟩)) = some a := by
    intro x s hs hin
    refine Place.findSome?_reach_of_farthest hs trivial (not_inLine_iff.mp hin) (.inl (hq' _)) ?_
    exact Place.findSome?_reach_of_farthest (Place.Leads.refl q) (Nat.zero_le 1)
      (List.forall_mem_nil _) (.inl (hq' _)) ha
  rw [firstWay_named_eq]
  rcases Place.endsRun_or_cons quote p with hp | ⟨c, t, hc, hquote⟩
  · exact Place.findSome?_reach_of_farthest (Place.Leads.refl p) (Nat.zero_le 1)
      (List.forall_mem_nil _) (.inl hp) (hline p rest h hrest)
  · have hsplit : rest = c :: t := by
      rw [← hc, h.after, hq, List.append_nil]
    subst hsplit
    have ht := ((Place.leads_cons_iff hc).mp h).2
    exact Place.findSome?_reach_of_farthest (Place.leads_pass hc) (Nat.le_refl 1)
      (List.forall_mem_singleton.mpr hquote) (.inr (Nat.not_succ_le_self 1))
      (hline _ t ht (fun hfeed => hrest (List.mem_cons_of_mem c hfeed)))

/-! ## 4. The match of a directive -/

theorem matchAt?_directive_eq : directive.matchAt? p =
    if p.before.isEmpty then
      baseWord.firstWay ⟨p, []⟩ (fun v => (v.place.reach .blank .atLeastOne).findSome? (fun y =>
        named.firstWay ⟨y, ⟨1, p, v.place⟩ :: v.captures⟩ (fun w =>
          if w.place.after.isEmpty then some ⟨p, w.place, ⟨2, y, w.place⟩ :: w.captures⟩ else none)))
    else none :=
  rfl

/-- A match begins at the front of a text that is a directive. -/
theorem isDirective_of_matchAt? {m : Match} (hm : directive.matchAt? p = some m) :
    p.before = [] ∧
      ∃ head blanks rest, p.after = head ++ blanks ++ rest ∧ IsDirective head blanks rest := by
  rw [matchAt?_directive_eq] at hm
  split at hm
  · rename_i hp
    obtain ⟨head, x, hhead, hpx, hm⟩ := exists_of_firstWay_baseWord hm
    obtain ⟨y, hy, hm⟩ := List.exists_of_findSome?_eq_some hm
    obtain ⟨blanks, hxy, hpos, hblank⟩ := Place.mem_reach_iff.mp hy
    obtain ⟨rest, q, hyq, hm⟩ := exists_of_firstWay_named hm
    split at hm
    · rename_i hq
      cases hm
      rw [List.isEmpty_iff] at hp hq
      obtain ⟨blanks', rest', hsplit, hform⟩ :=
        exists_isDirective hhead (List.ne_nil_of_length_pos hpos) hblank rest
      refine ⟨hp, head, blanks', rest', ?_, hform⟩
      rw [((hpx.trans hxy).trans hyq).after, hq, List.append_nil, hsplit]
    · cases hm
  · cases hm

/-- Only at the front of a text a match begins. -/
theorem eq_start_of_matchAt?_directive {m : Match} {text : String} (htext : p.text = text.toList)
    (hm : directive.matchAt? p = some m) : p = .start text := by
  have hbefore := (isDirective_of_matchAt? hm).1
  have hafter : p.after = text.toList := by
    rw [← htext, Place.text, hbefore, List.reverse_nil, List.nil_append]
  exact Place.ext' hbefore hafter

/-- **The match of a directive is all of it, with its word and what it names as groups.** -/
theorem matchAt?_directive {x y : Place} {head blanks rest : List Char} (hp : p.before = [])
    (hq : q.after = []) (hform : IsDirective head blanks rest) (hrest : '\n' ∉ rest)
    (hpx : p.Leads head x) (hxy : x.Leads blanks y) (hyq : y.Leads rest q) :
    directive.matchAt? p = some ⟨p, q, [⟨2, y, q⟩, ⟨1, p, x⟩]⟩ := by
  have hx : x.EndsRun quote := by
    obtain ⟨c, s, rfl⟩ := List.exists_cons_of_ne_nil hform.ne_nil
    exact Place.endsRun_of_after hxy.after
      (contains_quote_of_isBlank (hform.blank c List.mem_cons_self))
  have hy : y.EndsRun .blank := by
    intro c hc
    rw [hyq.after, hq, List.append_nil] at hc
    exact hform.rest c hc
  rw [matchAt?_directive_eq, if_pos (List.isEmpty_iff.mpr hp)]
  refine firstWay_baseWord hform.head hpx hx ?_
  refine Place.findSome?_reach_of_farthest hxy (List.length_pos_iff.mpr hform.ne_nil) hform.blank
    (.inl hy) ?_
  exact firstWay_named hyq hrest hq (if_pos (List.isEmpty_iff.mpr hq))

/-! ## 5. The matches of a text -/

/-- Whether the matches in a text are the text as a directive, if it is one. -/
structure FindsDirective (text : String) (found : List Match) : Prop where
  ne_nil_iff : found ≠ [] ↔
    ∃ head blanks rest, text.toList = head ++ blanks ++ rest ∧ IsDirective head blanks rest
  one : ∀ head blanks rest, text.toList = head ++ blanks ++ rest → IsDirective head blanks rest →
    ∃ m, found = [m] ∧ m.span? 0 = some (0, text.utf8ByteSize) ∧
      m.span? 1 = some (0, byteLength head) ∧
      m.span? 2 = some (byteLength (head ++ blanks), text.utf8ByteSize)

/-- **A text that is a directive has one match, which is all of it.** -/
theorem search_directive {text : String} (hline : '\n' ∉ text.toList) {head blanks rest : List Char}
    (htext : text.toList = head ++ blanks ++ rest) (hform : IsDirective head blanks rest) :
    ∃ m, directive.search text = [m] ∧ m.span? 0 = some (0, text.utf8ByteSize) ∧
      m.span? 1 = some (0, byteLength head) ∧
      m.span? 2 = some (byteLength (head ++ blanks), text.utf8ByteSize) := by
  have hwhole := Place.leads_start_finish text
  rw [htext] at hwhole
  obtain ⟨y, hpy, hyq⟩ := Place.leads_append_iff.mp hwhole
  obtain ⟨x, hpx, hxy⟩ := Place.leads_append_iff.mp hpy
  have hrest : '\n' ∉ rest := by
    intro hfeed
    refine hline ?_
    rw [htext]
    exact List.mem_append_right _ hfeed
  have hmatch := matchAt?_directive rfl rfl hform hrest hpx hxy hyq
  have htakes : (Place.start text).offset < (Place.finish text).offset :=
    hwhole.offset_lt_iff.mpr (by simp [hform.ne_nil])
  have hall : ∀ n : Match, n.start.text = text.toList → directive.matchAt? n.start = some n →
      (Place.start text).offset ≤ n.start.offset ∧ n.start.offset < n.stop.offset ∧
        n.stop = .finish text := by
    intro n hntext hn
    rw [eq_start_of_matchAt?_directive hntext hn, hmatch] at hn
    cases hn
    exact ⟨Nat.le_refl _, htakes, rfl⟩
  have hx : x.offset = byteLength head := by rw [hpx.offset_eq, Place.start, Nat.zero_add]
  have hy : y.offset = byteLength (head ++ blanks) := by rw [hpy.offset_eq, Place.start, Nat.zero_add]
  have hq := Place.offset_finish text
  refine ⟨⟨.start text, .finish text, [⟨2, y, .finish text⟩, ⟨1, .start text, x⟩]⟩,
    search_eq_singleton rfl hmatch htakes hall, ?_, ?_, ?_⟩
  · rw [← hq]
    rfl
  · rw [← hx]
    rfl
  · rw [← hy, ← hq]
    rfl

theorem search_directive_findsDirective {text : String} (hline : '\n' ∉ text.toList) :
    FindsDirective text (directive.search text) := by
  constructor
  · constructor
    · intro hne
      obtain ⟨m, hm⟩ := List.exists_mem_of_ne_nil _ hne
      obtain ⟨htext, -, hmatch⟩ := mem_search hm
      obtain ⟨-, head, blanks, rest, hafter, hform⟩ := isDirective_of_matchAt? hmatch
      rw [eq_start_of_matchAt?_directive htext hmatch] at hafter
      exact ⟨head, blanks, rest, hafter, hform⟩
    · rintro ⟨head, blanks, rest, htext, hform⟩
      obtain ⟨m, hm, -⟩ := search_directive hline htext hform
      rw [hm]
      exact List.cons_ne_nil m []
  · intro head blanks rest htext hform
    exact search_directive hline htext hform

end Pattern

/-! ## 6. The first rule -/

theorem compile_baseRule : baseRule.compile = .ok Pattern.directive :=
  eq_ok_of_toOption (by decide +kernel)

/-- **What the first rule finds.**  In a text of one line it finds the text as a whole iff that is a base
directive, with the word and what the directive names as its groups.  It is the first rule of every list
that is put together. -/
theorem first_rule_finds_directives :
    baseRule.Reports (fun text found => '\n' ∉ text.toList → Pattern.FindsDirective text found) ∧
    ∀ categories rules, assemble categories = .ok rules → rules.head? = some baseRule := by
  refine ⟨⟨_, compile_baseRule, fun text hline => ?_⟩, fun categories rules hrules => ?_⟩
  · exact Pattern.search_directive_findsDirective hline
  · rw [assemble_eq_ruleList] at hrules
    split at hrules
    · cases hrules
    · cases hrules
      rfl

/-- Both quotes of what is named are part of it, and the blanks in front are not. -/
theorem first_rule_finds_directives_quoted : ∃ p, baseRule.compile = .ok p ∧
    ∃ m, p.search "\"#base  \"robot_standard.pop\"" = [m] ∧ m.span? 0 = some (0, 28) ∧
      m.span? 1 = some (0, 6) ∧ m.span? 2 = some (8, 28) := by
  obtain ⟨⟨p, hp, hfound⟩, -⟩ := first_rule_finds_directives
  have hform : IsDirective "\"#base".toList [' ', ' '] "\"robot_standard.pop\"".toList := by
    refine ⟨⟨[], ['"'], [], by decide, .inl rfl, .inr rfl, .inl rfl⟩, List.cons_ne_nil _ _,
      List.all_eq_true.mp (by decide), fun c hc => ?_⟩
    have hquote : c = '"' := Option.some.inj (Option.mem_def.mp hc).symm
    rw [hquote]
    decide
  have hline : '\n' ∉ "\"#base  \"robot_standard.pop\"".toList := by decide
  have hsplit : "\"#base  \"robot_standard.pop\"".toList =
      "\"#base".toList ++ [' ', ' '] ++ "\"robot_standard.pop\"".toList := by decide
  exact ⟨p, hp, (hfound _ hline).one _ _ _ hsplit hform⟩

end KeywordGrammar
