/-
# Strings, bracketed constants and comments

Three of the structural rules take whatever stands between two marks: a run of any characters but line
feeds.  Since the run is as long as can be, a match ends at the last mark of its line that can end it
(`matchAt?_between_iff`), and what begins inside of a match ends with it.  So a line has one match at
most, which goes from the first mark to the last one (`mem_search_between_iff`): two strings of a line
and what stands between them are one string for the rule.

The mark at the end of a comment is the end of the text.  A comment is therefore found in the last line
only, and there from the first two slashes on.
-/
import KeywordGrammar.Proofs.GreedyRuns
import KeywordGrammar.Proofs.RuleLists

namespace KeywordGrammar

/-! ## 1. Lines -/

namespace Place

/-- Whether `letters` are a line of the text, from one place to another. -/
structure IsLine (p : Place) (letters : List Char) (q : Place) : Prop where
  leads : p.Leads letters q
  inLine : '\n' ∉ letters
  front : ∀ c ∈ p.before.head?, c = '\n'
  back : ∀ c ∈ q.after.head?, c = '\n'

variable {p q r e : Place} {s t letters : List Char}

theorem endsRun_inLine_iff : q.EndsRun .inLine ↔ ∀ c ∈ q.after.head?, c = '\n' := by
  simp [EndsRun, CharSet.contains]

theorem IsLine.endsRun (h : p.IsLine letters q) : q.EndsRun .inLine := endsRun_inLine_iff.mpr h.back

/-- Every place of a text is in a line. -/
theorem exists_line (r : Place) : ∃ (p q : Place) (s t : List Char),
    p.IsLine (s ++ t) q ∧ p.Leads s r ∧ r.Leads t q := by
  obtain ⟨t, q, ht, hset, hends⟩ := exists_run .inLine r
  have hsplit : r.before = (r.before.takeWhile (· != '\n')).reverse.reverse ++
      r.before.dropWhile (· != '\n') := by
    rw [List.reverse_reverse, List.takeWhile_append_dropWhile]
  obtain ⟨p, hp, hbefore⟩ := exists_leads_of_before hsplit
  refine ⟨p, q, _, t, ⟨hp.trans ht, ?_, ?_, endsRun_inLine_iff.mp hends⟩, hp, ht⟩
  · rw [List.mem_append, List.mem_reverse, not_or]
    refine ⟨fun hfeed => ?_, not_inLine_iff.mpr hset⟩
    have hkept := List.all_eq_true.mp (List.all_takeWhile (p := (· != '\n'))) _ hfeed
    simp at hkept
  · intro c hc
    rw [hbefore] at hc
    have hstop := List.head?_dropWhile_not (· != '\n') r.before
    rw [Option.mem_def.mp hc] at hstop
    simpa using hstop

/-- Every text has a last line. -/
theorem exists_lastLine (text : String) : ∃ (p q : Place) (letters : List Char),
    p.text = text.toList ∧ p.IsLine letters q ∧ q.after = [] := by
  obtain ⟨p, q, s, t, hline, hs, ht⟩ := exists_line (finish text)
  have hnil : t = [] := eq_nil_of_leads rfl ht
  subst hnil
  refine ⟨p, q, _, ?_, hline, by rw [ht.eq_of_nil]; rfl⟩
  exact hs.text_eq.symm.trans (leads_start_finish text).text_eq

/-- What leads to a place of a line without a line feed begins in that line. -/
theorem IsLine.exists_front (h : p.IsLine letters e) (hs : p.Leads s q) (ht : r.Leads t q)
    (hin : '\n' ∉ t) : ∃ u, p.Leads u r ∧ s = u ++ t := by
  rcases hs.join ht with hbegins | ⟨u, hu, rfl⟩
  · exact hbegins
  · rcases List.eq_nil_or_concat u with rfl | ⟨v, c, rfl⟩
    · rw [hu.eq_of_nil]
      exact ⟨[], Leads.refl r, rfl⟩
    · -- the character in front of the line is a line feed
      have hc := h.front c (by simp [hu.before])
      subst hc
      exact absurd (by simp) hin

end Place

/-! ## 2. From one mark to another -/

/-- Whether the text from one place to another begins with `first`, and ends with the last `last` in front
of `q`. -/
structure Place.IsReach (first last : Char) (start stop q : Place) : Prop where
  body : ∃ s, start.Leads (first :: (s ++ [last])) stop
  back : ∃ s, stop.Leads s q ∧ last ∉ s

/-- Whether the text from `start` to `stop` goes from the first `first` to the last `last` of what stands
between `p` and `q`. -/
structure Place.IsExtent (first last : Char) (p q start stop : Place) : Prop
    extends Place.IsReach first last start stop q where
  front : ∃ s, p.Leads s start ∧ first ∉ s

theorem exists_last_of_mem {α : Type} {b : α} {l : List α} (h : b ∈ l) :
    ∃ s t, l = s ++ b :: t ∧ b ∉ t := by
  obtain ⟨t, s, hsplit, ht⟩ := List.eq_append_cons_of_mem (List.mem_reverse.mpr h)
  refine ⟨s.reverse, t.reverse, ?_, by rwa [List.mem_reverse]⟩
  have hl := congrArg List.reverse hsplit
  rw [List.reverse_reverse] at hl
  simp [hl]

/-- One thing stands in front of another in a list iff its first does so in front of the other's last. -/
theorem exists_outermost_iff {α : Type} [DecidableEq α] {a b : α} {l : List α} :
    [a, b].Sublist l ↔ ∃ u s t, l = u ++ (a :: (s ++ [b])) ++ t ∧ a ∉ u ∧ b ∉ t := by
  constructor
  · intro h
    induction l with
    | nil => cases h
    | cons c l ih =>
      by_cases hc : a = c
      · subst hc
        have hb : b ∈ l := List.singleton_sublist.mp (List.cons_sublist_cons.mp h)
        obtain ⟨s, t, rfl, ht⟩ := exists_last_of_mem hb
        exact ⟨[], s, t, by simp, List.not_mem_nil, ht⟩
      · rcases List.cons_sublist_cons'.mp h with hl | ⟨heq, -⟩
        · obtain ⟨u, s, t, rfl, hu, ht⟩ := ih hl
          exact ⟨c :: u, s, t, rfl, by simp [hc, hu], ht⟩
        · exact absurd heq hc
  · rintro ⟨u, s, t, rfl, -, -⟩
    have hpair : [a, b].Sublist (a :: (s ++ [b])) :=
      List.cons_sublist_cons.mpr (List.sublist_append_right s [b])
    exact (hpair.trans (List.sublist_append_right u _)).trans (List.sublist_append_left _ t)

namespace Place

variable {first last : Char} {p q start start' stop stop' : Place} {s : List Char}

/-- Characters that lead to behind `last` have it among them, unless there are none. -/
theorem Leads.eq_nil_of_not_mem (h : p.Leads s q) (hq : last ∈ q.before.head?) (hs : last ∉ s) :
    s = [] := by
  rcases List.eq_nil_or_concat s with rfl | ⟨t, c, rfl⟩
  · rfl
  · rw [h.before] at hq
    simp at hq hs
    exact absurd hq.symm hs.2

theorem IsReach.mem_before (h : start.IsReach first last stop q) : last ∈ stop.before.head? := by
  obtain ⟨s, hs⟩ := h.body
  simp [hs.before]

/-- There is one last mark in front of a place. -/
theorem IsReach.stop_eq (h : start.IsReach first last stop q)
    (h' : start'.IsReach first last stop' q) : stop' = stop := by
  obtain ⟨t, ht, hnot⟩ := h.back
  obtain ⟨t', ht', hnot'⟩ := h'.back
  rcases ht.join ht' with ⟨u, hu, rfl⟩ | ⟨u, hu, rfl⟩
  · have hnil := hu.eq_nil_of_not_mem h'.mem_before (fun hmem => hnot (List.mem_append_left t' hmem))
    subst hnil
    exact hu.eq_of_nil
  · have hnil := hu.eq_nil_of_not_mem h.mem_before (fun hmem => hnot' (List.mem_append_left t hmem))
    subst hnil
    exact hu.eq_of_nil.symm

/-- **Behind a run of the characters of a line a mark is found where it stands last.** -/
theorem findSome?_stops_mark_iff {α : Type} {g : Place → α} {a : α} {rest : List Char} {e : Place}
    (hlast : last ≠ '\n') (he : p.Leads rest e) (hrest : '\n' ∉ rest) (hends : e.EndsRun .inLine) :
    (p.stops .inLine p.after []).findSome? (fun r => (r.skip? false [last]).map g) = some a ↔
      ∃ stop, (∃ s, p.Leads (s ++ [last]) stop) ∧ (∃ t, stop.Leads t e ∧ last ∉ t) ∧ g stop = a := by
  have hinLine : ∀ s, '\n' ∉ s → ∀ c ∈ s ++ [last], CharSet.inLine.contains c = true := by
    intro s hs
    refine not_inLine_iff.mp ?_
    simp [hs, hlast.symm]
  rw [findSome?_stops_eq_some_iff]
  constructor
  · rintro ⟨s, r, hs, hset, hr, hno⟩
    obtain ⟨stop, hstop, hg⟩ := Option.map_eq_some_iff.mp hr
    have hmark := hs.trans (skip?_exact_iff.mp hstop)
    obtain ⟨t, ht, rfl⟩ := hends.exists_rest he hmark (hinLine s (not_inLine_iff.mpr hset))
    refine ⟨stop, ⟨s, hmark⟩, ⟨t, ht, fun hmem => ?_⟩, hg⟩
    -- the run would have gone on to a mark behind this one
    obtain ⟨u, v, rfl⟩ := List.append_of_mem hmem
    obtain ⟨x, hx, hxe⟩ := leads_append_iff.mp ht
    obtain ⟨y, hy, -⟩ := leads_append_iff (s := [last]).mp hxe
    have hu : '\n' ∉ last :: u := by
      simp only [List.mem_append, List.mem_cons, not_or] at hrest ⊢
      exact ⟨hlast.symm, hrest.2.1⟩
    have hnone := hno (last :: u) x ((skip?_exact_iff.mp hstop).trans hx) (List.cons_ne_nil last u)
      (not_inLine_iff.mp hu)
    rw [skip?_exact_iff.mpr hy] at hnone
    cases hnone
  · rintro ⟨stop, ⟨s, hs⟩, ⟨t, ht, hnot⟩, hg⟩
    obtain ⟨r, hr, hstop⟩ := leads_append_iff.mp hs
    have hin : '\n' ∉ s := by
      intro hfeed
      refine hrest ?_
      rw [he.letters_eq (hs.trans ht)]
      exact List.mem_append_left t (List.mem_append_left [last] hfeed)
    refine ⟨s, r, hr, not_inLine_iff.mp hin, ?_, fun u x hu hne huset => ?_⟩
    · rw [skip?_exact_iff.mpr hstop, Option.map_some, hg]
    · cases hmore : x.skip? false [last] with
      | none => rfl
      | some y =>
        -- a mark farther on would be one of those behind the last
        obtain ⟨v, -, hv⟩ := hends.exists_rest (hstop.trans ht) (hu.trans (skip?_exact_iff.mp hmore))
          (hinLine u (not_inLine_iff.mpr huset))
        obtain ⟨d, u, rfl⟩ := List.exists_cons_of_ne_nil hne
        rw [List.singleton_append, List.cons_append, List.cons_append, List.cons.injEq] at hv
        refine absurd ?_ hnot
        rw [hv.2]
        simp

end Place

namespace Pattern

/-- The pattern of a character, any others of its line, and another character. -/
def between (first last : Char) : Pattern :=
  seq (literal false [first]) (seq (run .inLine .any) (literal false [last]))

variable {first last : Char} {p q e : Place} {letters rest : List Char} {m : Match} {text : String}

theorem matchAt?_between (first last : Char) (p : Place) : (between first last).matchAt? p =
    (p.skip? false [first]).bind (fun q => (q.stops .inLine q.after []).findSome? (fun r =>
      (r.skip? false [last]).map (fun stop => ⟨p, stop, []⟩))) := by
  simp only [matchAt?, between, firstWay, Place.reach, Option.map_eq_bind, Function.comp_def]

section Marks

variable {n : Match} (hfirst : first ≠ '\n') (hlast : last ≠ '\n')
include hfirst hlast

/-- **A match goes from its mark to the last other mark of the line.** -/
theorem matchAt?_between_iff (he : p.Leads rest e) (hrest : '\n' ∉ rest)
    (hends : e.EndsRun .inLine) : (between first last).matchAt? p = some m ↔
      p.IsReach first last m.stop e ∧ m = ⟨p, m.stop, []⟩ := by
  rw [matchAt?_between]
  constructor
  · intro hm
    obtain ⟨q, hq, hm⟩ := Option.bind_eq_some_iff.mp hm
    rw [Place.skip?_exact_iff] at hq
    have hfront : ∀ c ∈ [first], CharSet.inLine.contains c = true := by
      refine not_inLine_iff.mp ?_
      simp [hfirst.symm]
    obtain ⟨u, hu, rfl⟩ := hends.exists_rest he hq hfront
    have hin : '\n' ∉ u := fun hfeed => hrest (List.mem_append_right [first] hfeed)
    obtain ⟨stop, ⟨s, hs⟩, hback, rfl⟩ := (Place.findSome?_stops_mark_iff hlast hu hin hends).mp hm
    exact ⟨⟨⟨s, hq.trans hs⟩, hback⟩, rfl⟩
  · rintro ⟨⟨⟨s, hbody⟩, t, ht, hnot⟩, heq⟩
    obtain ⟨q, hq, hs⟩ := Place.leads_append_iff (s := [first]).mp hbody
    have hin : '\n' ∉ s ++ [last] ++ t := by
      rw [he.letters_eq (hbody.trans ht)] at hrest
      exact fun hfeed => hrest (List.mem_cons_of_mem first hfeed)
    rw [heq]
    refine Option.bind_eq_some_iff.mpr ⟨q, Place.skip?_exact_iff.mpr hq, ?_⟩
    exact (Place.findSome?_stops_mark_iff hlast (hs.trans ht) hin hends).mpr
      ⟨m.stop, ⟨s, hs⟩, ⟨t, ht, hnot⟩, rfl⟩

/-- A match goes to the last other mark in front of the end of its line. -/
theorem exists_reach_of_matchAt? (hm : (between first last).matchAt? p = some m) :
    ∃ rest e, p.Leads rest e ∧ '\n' ∉ rest ∧ e.EndsRun .inLine ∧
      p.IsReach first last m.stop e := by
  obtain ⟨rest, e, he, hset, hends⟩ := Place.exists_run .inLine p
  have hrest := not_inLine_iff.mpr hset
  exact ⟨rest, e, he, hrest, hends, ((matchAt?_between_iff hfirst hlast he hrest hends).mp hm).1⟩

/-- A match takes its marks at least. -/
theorem offset_lt_of_matchAt?_between (hm : (between first last).matchAt? m.start = some m) :
    m.start.offset < m.stop.offset := by
  obtain ⟨_, _, -, -, -, hreach⟩ := exists_reach_of_matchAt? hfirst hlast hm
  obtain ⟨s, hs⟩ := hreach.body
  exact hs.offset_lt_iff.mpr (List.cons_ne_nil first _)

/-- What begins inside of a match ends with it. -/
theorem stop_eq_of_inside (htext : m.start.text = n.start.text)
    (hm : (between first last).matchAt? m.start = some m)
    (hn : (between first last).matchAt? n.start = some n) (hle : m.start.offset ≤ n.start.offset)
    (hlt : n.start.offset < m.stop.offset) : n.stop = m.stop := by
  obtain ⟨rest, e, he, hrest, hends, hreach⟩ := exists_reach_of_matchAt? hfirst hlast hm
  -- the line of the one goes on behind the front of the other
  obtain ⟨s, hs⟩ := Place.leads_of_offset_le htext hle
  obtain ⟨u, hu, -⟩ := hreach.back
  have hbehind : n.start.offset ≤ e.offset := by
    rw [hu.offset_eq]
    omega
  obtain ⟨t, ht⟩ := Place.leads_of_offset_le (htext.symm.trans he.text_eq.symm) hbehind
  have hsplit : rest = s ++ t := he.letters_eq (hs.trans ht)
  have hin : '\n' ∉ t := fun hfeed => hrest (hsplit ▸ List.mem_append_right s hfeed)
  exact hreach.stop_eq ((matchAt?_between_iff hfirst hlast ht hin hends).mp hn).1

/-- A match runs across a place of a line only if its mark stands before that place in the line. -/
theorem mem_front_of_crossed {s : List Char} (hline : p.IsLine letters e) (hs : p.Leads s q)
    (htext : n.start.text = q.text) (hn : (between first last).matchAt? n.start = some n)
    (hbefore : n.start.offset < q.offset) (hcross : q.offset < n.stop.offset) : first ∈ s := by
  obtain ⟨rest, d, hd, hrest, -, ⟨w, hw⟩, u, hu, -⟩ := exists_reach_of_matchAt? hfirst hlast hn
  -- what leads to the place begins with the mark and has no line feed in it, so it begins in the line
  obtain ⟨v, hv⟩ := Place.leads_of_offset_le htext (Nat.le_of_lt hbefore)
  obtain ⟨x, hx⟩ := Place.leads_of_offset_le (htext.symm.trans hw.text_eq.symm) (Nat.le_of_lt hcross)
  have hbody : first :: (w ++ [last]) = v ++ x := hw.letters_eq (hv.trans hx)
  obtain ⟨c, v, rfl⟩ := List.exists_cons_of_ne_nil (hv.offset_lt_iff.mp hbefore)
  have hin : '\n' ∉ c :: v := by
    intro hfeed
    refine hrest ?_
    rw [hd.letters_eq (hw.trans hu), hbody]
    exact List.mem_append_left u (List.mem_append_left x hfeed)
  obtain ⟨y, -, rfl⟩ := hline.exists_front hs hv hin
  rw [List.cons_append, List.cons.injEq] at hbody
  rw [hbody.1]
  exact List.mem_append_right y List.mem_cons_self

/-- The match of a mark that stands before a place of a line runs across it, if the line has the other
mark behind that place. -/
theorem exists_crossing_of_mem_front {s t : List Char} {stop : Place} (hline : p.IsLine (s ++ t) e)
    (hs : p.Leads s q) (ht : q.Leads t e) (hreach : q.IsReach first last stop e)
    (hmem : first ∈ s) :
    ∃ n : Match, n.start.text = q.text ∧ (between first last).matchAt? n.start = some n ∧
      n.start.offset < q.offset ∧ q.offset < n.stop.offset := by
  obtain ⟨u, v, rfl⟩ := List.append_of_mem hmem
  obtain ⟨x, -, hx⟩ := Place.leads_append_iff.mp hs
  obtain ⟨w, hw⟩ := hreach.body
  have hxreach : x.IsReach first last stop e := by
    refine ⟨⟨v ++ first :: w, ?_⟩, hreach.back⟩
    rw [List.append_assoc, ← List.cons_append]
    exact hx.trans hw
  have hin : '\n' ∉ first :: v ++ t := by
    intro hfeed
    refine hline.inLine ?_
    rw [List.append_assoc]
    exact List.mem_append_right u hfeed
  have hmatch := (matchAt?_between_iff (m := ⟨x, stop, []⟩) hfirst hlast (hx.trans ht) hin
    hline.endsRun).mpr ⟨hxreach, rfl⟩
  exact ⟨⟨x, stop, []⟩, hx.text_eq.symm, hmatch, hx.offset_lt_iff.mpr (List.cons_ne_nil first v),
    hw.offset_lt_iff.mpr (List.cons_ne_nil first _)⟩

/-- **A search reports a match in a line iff it goes from the first mark of the line to the last one.** -/
theorem mem_search_between_iff {s t : List Char} (hline : p.IsLine (s ++ t) q)
    (htext : p.text = text.toList) (hs : p.Leads s m.start) (ht : m.start.Leads t q) :
    m ∈ (between first last).search text ↔
      p.IsExtent first last q m.start m.stop ∧ m = ⟨m.start, m.stop, []⟩ := by
  have hin : '\n' ∉ t := fun hfeed => hline.inLine (List.mem_append_right s hfeed)
  have hmtext : m.start.text = text.toList := hs.text_eq.trans htext
  rw [mem_search_iff_uncrossed (fun m => offset_lt_of_matchAt?_between hfirst hlast)
    (fun m n => stop_eq_of_inside hfirst hlast), matchAt?_between_iff hfirst hlast ht hin hline.endsRun]
  constructor
  · rintro ⟨-, ⟨hreach, heq⟩, hfree⟩
    refine ⟨⟨hreach, s, hs, fun hmem => ?_⟩, heq⟩
    obtain ⟨n, hntext, hn, hbefore, hcross⟩ :=
      exists_crossing_of_mem_front hfirst hlast hline hs ht hreach hmem
    have := hfree n (hntext.trans hmtext) hn hbefore
    omega
  · rintro ⟨⟨hreach, s', hs', hnot⟩, heq⟩
    refine ⟨hmtext, ⟨hreach, heq⟩, fun n hntext hn hbefore => ?_⟩
    rw [hs'.letters_eq hs] at hnot
    by_contra hcross
    exact hnot (mem_front_of_crossed hfirst hlast hline hs (hntext.trans hmtext.symm) hn hbefore
      (Nat.lt_of_not_le hcross))

end Marks

/-! ## 3. The matches of a text -/

/-- Whether some matches in a text are, for each line with some property, the text from its first `first`
to its last `last`. -/
structure FindsExtents (holds : List Char → Prop) (first last : Char) (text : String)
    (found : List Match) : Prop where
  /-- A line with the property has one match. -/
  one : ∀ (p : Place) letters q, p.text = text.toList → p.IsLine letters q → holds letters →
    ∃ m ∈ found, p.IsExtent first last q m.start m.stop ∧
      ∀ n ∈ found, p.offset ≤ n.start.offset → n.start.offset ≤ q.offset → n = m
  /-- There are no other matches. -/
  noOther : ∀ m ∈ found, ∃ (p q : Place) (letters : List Char), p.text = text.toList ∧
    p.IsLine letters q ∧ holds letters ∧ p.IsExtent first last q m.start m.stop
  /-- The matches come in the order of the lines. -/
  inOrder : found.Pairwise (fun m n => m.stop.offset ≤ n.start.offset)

/-- A line has one mark behind another iff it has an extent. -/
theorem sublist_iff_exists_extent (h : p.Leads letters q) :
    [first, last].Sublist letters ↔ ∃ start stop, p.IsExtent first last q start stop := by
  rw [exists_outermost_iff]
  constructor
  · rintro ⟨u, s, t, rfl, hu, ht⟩
    obtain ⟨stop, hstop, hback⟩ := Place.leads_append_iff.mp h
    obtain ⟨start, hstart, hbody⟩ := Place.leads_append_iff.mp hstop
    exact ⟨start, stop, ⟨⟨s, hbody⟩, t, hback, ht⟩, u, hstart, hu⟩
  · rintro ⟨start, stop, ⟨⟨s, hbody⟩, t, hback, ht⟩, u, hstart, hu⟩
    exact ⟨u, s, t, h.letters_eq ((hstart.trans hbody).trans hback), hu, ht⟩

theorem search_between_findsExtents (hfirst : first ≠ '\n') (hlast : last ≠ '\n') (text : String) :
    FindsExtents (fun letters => [first, last].Sublist letters) first last text
      ((between first last).search text) := by
  have htakes : ∀ m ∈ (between first last).search text, m.start.offset < m.stop.offset :=
    fun m hm => offset_lt_of_matchAt?_between hfirst hlast (mem_search hm).2.2
  refine ⟨fun p letters q htext hline hmarks => ?_, fun m hm => ?_, pairwise_search _ text⟩
  · obtain ⟨start, stop, hextent⟩ := (sublist_iff_exists_extent hline.leads).mp hmarks
    obtain ⟨s, hs, -⟩ := hextent.front
    obtain ⟨w, hw⟩ := hextent.body
    obtain ⟨t, ht, -⟩ := hextent.back
    have hletters := hline.leads.letters_eq (hs.trans (hw.trans ht))
    subst hletters
    have hm : ⟨start, stop, []⟩ ∈ (between first last).search text :=
      (mem_search_between_iff hfirst hlast hline htext hs (hw.trans ht)).mpr ⟨hextent, rfl⟩
    refine ⟨_, hm, hextent, fun n hn hle hge => ?_⟩
    -- another match of the line ends where this one does
    have hntext := (mem_search hn).1
    obtain ⟨u, hu⟩ := Place.leads_of_offset_le (htext.trans hntext.symm) hle
    obtain ⟨v, hv⟩ := Place.leads_of_offset_le
      (hntext.trans (htext.symm.trans hline.leads.text_eq.symm)) hge
    rw [hline.leads.letters_eq (hu.trans hv)] at hline
    have hnextent := ((mem_search_between_iff hfirst hlast hline htext hu hv).mp hn).1
    exact eq_of_stop_eq hn hm (htakes n hn) (htakes _ hm) (hextent.stop_eq hnextent.toIsReach)
  · obtain ⟨p, q, s, t, hline, hs, ht⟩ := Place.exists_line m.start
    have htext : p.text = text.toList := hs.text_eq.symm.trans (mem_search hm).1
    have hextent := ((mem_search_between_iff hfirst hlast hline htext hs ht).mp hm).1
    exact ⟨p, q, s ++ t, htext, hline,
      (sublist_iff_exists_extent hline.leads).mpr ⟨_, _, hextent⟩, hextent⟩

end Pattern

/-! ## 4. From a mark to the end of the text -/

namespace Place

/-- The rest of a text leads to its end. -/
theorem leads_after {p q : Place} (hq : q.after = []) (htext : p.text = q.text) :
    p.Leads p.after q := by
  refine ⟨?_, by rw [hq, List.append_nil]⟩
  have hwhole := congrArg List.reverse htext
  rw [text, text, hq, List.append_nil, List.reverse_append, List.reverse_reverse,
    List.reverse_reverse] at hwhole
  exact hwhole.symm

/-- Whether a place is the first one from `p` on at which some text stands. -/
structure IsFirstOf (p : Place) (mark : List Char) (start : Place) : Prop where
  leads : ∃ s, p.Leads s start
  stands : mark <+: start.after
  first : ∀ s r, p.Leads s r → mark <+: r.after → start.offset ≤ r.offset

theorem isFirstOf_self {p : Place} {mark : List Char} (h : mark <+: p.after) :
    p.IsFirstOf mark p := by
  refine ⟨⟨[], Leads.refl p⟩, h, fun s r hs _ => ?_⟩
  rw [hs.offset_eq]
  omega

/-- Some text stands behind a place iff there is a first place at which it does. -/
theorem exists_isFirstOf_iff {p : Place} {mark : List Char} :
    (∃ start, p.IsFirstOf mark start) ↔ mark <:+: p.after := by
  constructor
  · rintro ⟨start, ⟨s, hs⟩, hstands, -⟩
    rw [hs.after]
    exact hstands.isInfix.trans (List.suffix_append s _).isInfix
  · generalize ha : p.after = text
    intro h
    induction text generalizing p with
    | nil =>
      rw [List.infix_nil] at h
      exact ⟨p, isFirstOf_self (h ▸ List.nil_prefix)⟩
    | cons c rest ih =>
      by_cases hp : mark <+: p.after
      · exact ⟨p, isFirstOf_self hp⟩
      · have hrest : mark <:+: rest := by
          rcases List.infix_cons_iff.mp h with hfront | hrest
          · exact absurd (ha ▸ hfront) hp
          · exact hrest
        obtain ⟨start, ⟨s, hs⟩, hstands, hfirst⟩ := ih (p := p.pass c rest) rfl hrest
        refine ⟨start, ⟨c :: s, (leads_cons_iff ha).mpr ⟨rfl, hs⟩⟩, hstands, fun t r ht hr => ?_⟩
        cases t with
        | nil =>
          rw [ht.eq_of_nil] at hr
          exact absurd hr hp
        | cons d t => exact hfirst t r ((leads_cons_iff ha).mp ht).2 hr

end Place

namespace Pattern

variable {p q : Place} {letters : List Char} {m : Match}

/-- The pattern of a text and any other characters up to the end, in one line. -/
def toEnd (mark : List Char) : Pattern :=
  seq (literal false mark) (seq (run .inLine .any) (anchor .textEnd))

theorem matchAt?_toEnd (mark : List Char) (p : Place) : (toEnd mark).matchAt? p =
    (p.skip? false mark).bind (fun q => (q.reach .inLine .any).findSome? (fun r =>
      if r.after.isEmpty then some ⟨p, r, []⟩ else none)) :=
  rfl

/-- **A match is the rest of the text, if the mark stands in front of it and it is of one line.** -/
theorem matchAt?_toEnd_iff {mark : List Char} (hq : q.after = []) (htext : p.text = q.text) :
    (toEnd mark).matchAt? p = some m ↔
      (∃ s, p.after = mark ++ s ∧ '\n' ∉ s) ∧ m = ⟨p, q, []⟩ := by
  rw [matchAt?_toEnd]
  constructor
  · intro hm
    obtain ⟨r, hr, hm⟩ := Option.bind_eq_some_iff.mp hm
    obtain ⟨e, hreach, he⟩ := List.exists_of_findSome?_eq_some hm
    obtain ⟨s, hs, -, hset⟩ := Place.mem_reach_iff.mp hreach
    rw [Place.skip?_exact_iff] at hr
    split at he
    · rename_i hend
      rw [List.isEmpty_iff] at hend
      have hleads := hr.trans hs
      have heq : q = e := by
        have hrest := Place.leads_after hq (hleads.text_eq.trans htext)
        rw [hend] at hrest
        exact hrest.eq_of_nil
      cases he
      refine ⟨⟨s, ?_, not_inLine_iff.mpr hset⟩, by rw [heq]⟩
      rw [hleads.after, hend, List.append_nil]
    · cases he
  · rintro ⟨⟨s, hafter, hs⟩, rfl⟩
    obtain ⟨r, hr, hrest⟩ := Place.exists_leads_of_after hafter
    have hleads := Place.leads_after hq (hr.text_eq.trans htext)
    rw [hrest] at hleads
    refine Option.bind_eq_some_iff.mpr ⟨r, Place.skip?_exact_iff.mpr hr, ?_⟩
    exact Place.findSome?_reach_of_farthest hleads trivial (not_inLine_iff.mp hs)
      (.inl (Place.endsRun_of_after_nil hq _)) (by simp [hq])

/-- Whether some matches in a text are the rest of it from the first mark of its last line on, or none if
that line has no mark. -/
def FindsTail (mark : List Char) (text : String) (found : List Match) : Prop :=
  ∃ (p q : Place) (letters : List Char), p.text = text.toList ∧ p.IsLine letters q ∧ q.after = [] ∧
    ((¬ mark <:+: letters ∧ found = []) ∨
      ∃ m, found = [m] ∧ p.IsFirstOf mark m.start ∧ m.stop = q)

/-- What a match takes begins in the last line. -/
theorem exists_front_of_matchAt?_toEnd {mark : List Char} (hmark : '\n' ∉ mark)
    (hline : p.IsLine letters q) (hq : q.after = []) (htext : m.start.text = p.text)
    (hm : (toEnd mark).matchAt? m.start = some m) :
    ∃ s t, p.Leads s m.start ∧ m.start.Leads (mark ++ t) q ∧ m.stop = q := by
  have hsame : m.start.text = q.text := htext.trans hline.leads.text_eq.symm
  obtain ⟨⟨t, hafter, ht⟩, heq⟩ := (matchAt?_toEnd_iff hq hsame).mp hm
  have hleads := Place.leads_after hq hsame
  rw [hafter] at hleads
  have hin : '\n' ∉ mark ++ t := by simp [hmark, ht]
  obtain ⟨s, hs, -⟩ := hline.exists_front hline.leads hleads hin
  exact ⟨s, t, hs, hleads, by rw [heq]⟩

/-- From a place of the last line at which the mark stands there is a match. -/
theorem matchAt?_toEnd_of_stands {mark s : List Char} {start : Place} (hline : p.IsLine letters q)
    (hq : q.after = []) (hs : p.Leads s start) (hstands : mark <+: start.after) :
    (toEnd mark).matchAt? start = some ⟨start, q, []⟩ := by
  have hsame : start.text = q.text := hs.text_eq.trans hline.leads.text_eq.symm
  obtain ⟨t, ht⟩ := hstands
  refine (matchAt?_toEnd_iff hq hsame).mpr ⟨⟨t, ht.symm, fun hfeed => hline.inLine ?_⟩, rfl⟩
  rw [hline.leads.letters_eq (hs.trans (Place.leads_after hq hsame)), ← ht]
  exact List.mem_append_right s (List.mem_append_right mark hfeed)

theorem search_toEnd_findsTail {mark : List Char} (hne : mark ≠ []) (hmark : '\n' ∉ mark)
    (text : String) : FindsTail mark text ((toEnd mark).search text) := by
  obtain ⟨p, q, letters, htext, hline, hq⟩ := Place.exists_lastLine text
  refine ⟨p, q, letters, htext, hline, hq, ?_⟩
  by_cases hmem : mark <:+: letters
  · refine .inr ?_
    have hafter : p.after = letters := by rw [hline.leads.after, hq, List.append_nil]
    obtain ⟨start, hfirst⟩ := Place.exists_isFirstOf_iff.mpr (hafter ▸ hmem)
    obtain ⟨s, hs⟩ := hfirst.leads
    have hmatch := matchAt?_toEnd_of_stands hline hq hs hfirst.stands
    refine ⟨⟨start, q, []⟩, ?_, hfirst, rfl⟩
    have hall : ∀ n : Match, n.start.text = text.toList → (toEnd mark).matchAt? n.start = some n →
        start.offset ≤ n.start.offset ∧ n.start.offset < n.stop.offset ∧ n.stop = q := by
      intro n hntext hn
      obtain ⟨u, t, hu, ht, hstop⟩ :=
        exists_front_of_matchAt?_toEnd hmark hline hq (hntext.trans htext.symm) hn
      have hstands : mark <+: n.start.after := ⟨t, by rw [ht.after, hq, List.append_nil]⟩
      refine ⟨hfirst.first u n.start hu hstands, ?_, hstop⟩
      rw [hstop]
      exact ht.offset_lt_iff.mpr (by simp [hne])
    have hstext : start.text = text.toList := hs.text_eq.trans htext
    exact search_eq_singleton hstext hmatch (hall _ hstext hmatch).2.1 hall
  · refine .inl ⟨hmem, List.eq_nil_iff_forall_not_mem.mpr (fun m hm => hmem ?_)⟩
    obtain ⟨hmtext, -, hmatch⟩ := mem_search hm
    obtain ⟨s, t, hs, ht, -⟩ :=
      exists_front_of_matchAt?_toEnd hmark hline hq (hmtext.trans htext.symm) hmatch
    rw [hline.leads.letters_eq (hs.trans ht), ← List.append_assoc]
    exact ⟨s, t, rfl⟩

end Pattern

/-! ## 5. The three rules -/

theorem compile_stringRule : stringRule.compile = .ok (Pattern.between '"' '"') :=
  eq_ok_of_toOption (by decide +kernel)

theorem compile_bracketRule : bracketRule.compile = .ok (Pattern.between '[' ']') :=
  eq_ok_of_toOption (by decide +kernel)

theorem compile_commentRule : commentRule.compile = .ok (Pattern.toEnd ['/', '/']) :=
  eq_ok_of_toOption (by decide +kernel)

/-- **What the rules for strings, bracketed constants and comments find.**  Each line with two quotes has
one string, from its first quote to its last, and each line with an opening bracket in front of a closing
one has one constant, from the first opening bracket to the last closing one.  A comment is what the last
line has from its first two slashes on. -/
theorem marked_rules_extents :
    stringRule.Reports (Pattern.FindsExtents (fun letters => 2 ≤ letters.count '"') '"' '"') ∧
    bracketRule.Reports (Pattern.FindsExtents (fun letters => ['[', ']'].Sublist letters) '[' ']') ∧
    commentRule.Reports (Pattern.FindsTail ['/', '/']) := by
  refine ⟨⟨_, compile_stringRule, fun text => ?_⟩, ⟨_, compile_bracketRule, fun text => ?_⟩,
    ⟨_, compile_commentRule, fun text => ?_⟩⟩
  · have hcount : ∀ letters : List Char, ['"', '"'].Sublist letters ↔ 2 ≤ letters.count '"' :=
      fun letters => List.replicate_sublist_iff (n := 2)
    have hfound : Pattern.FindsExtents (fun letters => ['"', '"'].Sublist letters) '"' '"' text
        ((Pattern.between '"' '"').search text) :=
      Pattern.search_between_findsExtents (by decide) (by decide) text
    simpa only [hcount] using hfound
  · exact Pattern.search_between_findsExtents (by decide) (by decide) text
  · exact Pattern.search_toEnd_findsTail (List.cons_ne_nil _ _) (by decide) text

/-- Two strings of a line are one for the rule, and of two comments only that of the last line is found. -/
theorem marked_rules_extents_threeLines : ∃ strings brackets comments,
    stringRule.compile = .ok strings ∧ bracketRule.compile = .ok brackets ∧
    commentRule.compile = .ok comments ∧
    Pattern.FindsTail ['/', '/'] "\"a\" + \"é\"\n] [1] [2] // x\n//// y"
      (comments.search "\"a\" + \"é\"\n] [1] [2] // x\n//// y") ∧
    [strings, brackets, comments].map (fun p =>
      (p.search "\"a\" + \"é\"\n] [1] [2] // x\n//// y").map (fun m => m.span? 0)) =
        [[some (0, 10)], [some (13, 20)], [some (26, 32)]] := by
  obtain ⟨⟨strings, hstrings, -⟩, ⟨brackets, hbrackets, -⟩, ⟨comments, hcomments, hfound⟩⟩ :=
    marked_rules_extents
  refine ⟨strings, brackets, comments, hstrings, hbrackets, hcomments, hfound _, ?_⟩
  rw [compile_stringRule] at hstrings
  rw [compile_bracketRule] at hbrackets
  rw [compile_commentRule] at hcomments
  cases hstrings
  cases hbrackets
  cases hcomments
  decide +kernel

end KeywordGrammar
