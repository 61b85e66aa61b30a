/-
# Runs of characters

A count without a bound tries the longest run of its characters first and gives one character back at a
time.  What is found behind it is therefore found from the last place of the run from which it can be
found at all (`findSome?_stops_eq_some_iff`).  Any count leads to the places behind as many characters as
it allows (`mem_reach_iff`), and if what follows can be found from the farthest of them, nothing is given
back (`findSome?_reach_of_farthest`).

From single places the step to a whole search is one of two.  Where a match that begins inside of
another ends with it, the matches that are reported are those that begin inside of no other
(`mem_search_iff_uncrossed`); and where all of them end at one place, only the first one is reported
(`search_eq_singleton`).
-/
import KeywordGrammar.Proofs.Matches
import KeywordGrammar.Rule

namespace KeywordGrammar

/-- Whether a count allows for so many characters. -/
def Count.Allows : Count → Nat → Prop
  | one, n => n = 1
  | atMostOne, n => n ≤ 1
  | any, _ => True
  | atLeastOne, n => 1 ≤ n

/-- The characters of a line are those that are no line feeds. -/
theorem not_inLine_iff {s : List Char} :
    '\n' ∉ s ↔ ∀ c ∈ s, CharSet.inLine.contains c = true := by
  simp only [CharSet.contains, bne_iff_ne]
  constructor
  · rintro h c hc rfl
    exact h hc
  · intro h hfeed
    exact h '\n' hfeed rfl

/-! ## 1. Places around a place -/

namespace Place

variable {p q r : Place} {s t : List Char}

/-- There is a place behind each beginning of what follows. -/
theorem exists_leads_of_after (h : p.after = s ++ t) : ∃ q, p.Leads s q ∧ q.after = t :=
  ⟨⟨s.reverse ++ p.before, t, _, rfl⟩, ⟨rfl, h⟩, rfl⟩

/-- There is a place in front of each end of what stands before. -/
theorem exists_leads_of_before (h : p.before = s.reverse ++ t) :
    ∃ q : Place, q.Leads s p ∧ q.before = t :=
  ⟨⟨t, s ++ p.after, _, rfl⟩, ⟨h, rfl⟩, rfl⟩

/-- Characters and those behind them lead on by way of a place between them. -/
theorem leads_append_iff : p.Leads (s ++ t) q ↔ ∃ r, p.Leads s r ∧ r.Leads t q := by
  constructor
  · intro h
    obtain ⟨r, hr, hafter⟩ := exists_leads_of_after (h.after.trans (List.append_assoc s t q.after))
    refine ⟨r, hr, ?_, hafter⟩
    rw [h.before, hr.before, List.reverse_append, List.append_assoc]
  · rintro ⟨r, hr, hq⟩
    exact hr.trans hq

/-- A text that is not taken regardless of case leads to where it ends. -/
theorem skip?_exact_iff : p.skip? false s = some q ↔ p.Leads s q := by
  have hsame : ∀ l c, sameChar false l c = true ↔ l = c := by simp [sameChar]
  simp only [skip?_eq_some_iff, hsame, List.forall₂_eq_eq_eq, exists_eq_right']

/-- Of two stretches that begin at one place one is the front of the other. -/
theorem Leads.split (hq : p.Leads s q) (hr : p.Leads t r) :
    (∃ u, q.Leads u r ∧ t = s ++ u) ∨ ∃ u, r.Leads u q ∧ s = t ++ u := by
  have htext : q.text = r.text := hq.text_eq.trans hr.text_eq.symm
  rcases Nat.le_total q.offset r.offset with hle | hle
  · obtain ⟨u, hu⟩ := leads_of_offset_le htext hle
    exact .inl ⟨u, hu, hr.letters_eq (hq.trans hu)⟩
  · obtain ⟨u, hu⟩ := leads_of_offset_le htext.symm hle
    exact .inr ⟨u, hu, hq.letters_eq (hr.trans hu)⟩

/-- Of two stretches that end at one place one is the back of the other. -/
theorem Leads.join (hp : p.Leads s r) (hq : q.Leads t r) :
    (∃ u, p.Leads u q ∧ s = u ++ t) ∨ ∃ u, q.Leads u p ∧ t = u ++ s := by
  have htext : p.text = q.text := hp.text_eq.symm.trans hq.text_eq
  rcases Nat.le_total p.offset q.offset with hle | hle
  · obtain ⟨u, hu⟩ := leads_of_offset_le htext hle
    exact .inl ⟨u, hu, hp.letters_eq (hu.trans hq)⟩
  · obtain ⟨u, hu⟩ := leads_of_offset_le htext.symm hle
    exact .inr ⟨u, hu, hq.letters_eq (hu.trans hp)⟩

/-! ## 2. The places of a run -/

/-- Whether no character of the set stands at a place. -/
def EndsRun (set : CharSet) (p : Place) : Prop := ∀ c ∈ p.after.head?, set.contains c = false

theorem next?_eq_none_iff {set : CharSet} : p.next? set = none ↔ p.EndsRun set := by
  unfold next? EndsRun
  cases h : p.after with
  | nil => simp
  | cons c rest => simp

theorem endsRun_of_after_nil (h : p.after = []) (set : CharSet) : p.EndsRun set := by
  intro c hc
  rw [h] at hc
  cases hc

theorem endsRun_of_after {set : CharSet} {c : Char} {rest : List Char} (h : p.after = c :: rest)
    (hc : set.contains c = false) : p.EndsRun set := by
  intro d hd
  rw [h, List.head?_cons, Option.mem_some_iff] at hd
  rw [← hd, hc]

/-- Where a run ends, no characters of the set lead on. -/
theorem EndsRun.eq_nil {set : CharSet} (h : p.EndsRun set) (hs : p.Leads s q)
    (hset : ∀ c ∈ s, set.contains c = true) : s = [] := by
  cases s with
  | nil => rfl
  | cons c s =>
    have hc := h c (by rw [hs.after]; rfl)
    rw [hset c List.mem_cons_self] at hc
    cases hc

/-- Characters of the set lead no farther than to the end of the run. -/
theorem EndsRun.exists_rest {set : CharSet} (hends : r.EndsRun set) (hs : p.Leads s r)
    (ht : p.Leads t q) (hset : ∀ c ∈ t, set.contains c = true) : ∃ u, q.Leads u r ∧ s = t ++ u := by
  rcases ht.split hs with hrest | ⟨u, hu, rfl⟩
  · exact hrest
  · have hnil := hends.eq_nil hu (fun c hc => hset c (List.mem_append_right s hc))
    subst hnil
    rw [← hu.eq_of_nil]
    exact ⟨[], Leads.refl q, by rw [List.append_nil, List.append_nil]⟩

/-- Either a run ends at a place, or a character of the set stands there. -/
theorem endsRun_or_cons (set : CharSet) (p : Place) :
    p.EndsRun set ∨ ∃ c rest, p.after = c :: rest ∧ set.contains c = true := by
  cases h : p.after with
  | nil => exact .inl (endsRun_of_after_nil h set)
  | cons c rest =>
    cases hc : set.contains c with
    | true => exact .inr ⟨c, rest, rfl, hc⟩
    | false => exact .inl (endsRun_of_after h hc)

/-- What holds where a run ends, and in front of a character of the set if it holds behind it, holds
everywhere. -/
theorem run_induction (set : CharSet) {motive : Place → Prop}
    (stop : ∀ p, p.EndsRun set → motive p)
    (step : ∀ p c rest, p.after = c :: rest → set.contains c = true → motive (p.pass c rest) → motive p)
    (p : Place) : motive p := by
  generalize ha : p.after = text
  induction text generalizing p with
  | nil => exact stop p (endsRun_of_after_nil ha set)
  | cons c rest ih =>
    rcases endsRun_or_cons set p with hends | ⟨d, more, hd, hset⟩
    · exact stop p hends
    · rw [ha, List.cons.injEq] at hd
      obtain ⟨rfl, rfl⟩ := hd
      exact step p c rest ha hset (ih (p.pass c rest) rfl)

/-- A run that does not end at a place begins with the character there. -/
theorem Leads.run_cons_iff {set : CharSet} {c : Char} {rest : List Char} (ha : p.after = c :: rest)
    (hc : set.contains c = true) : ((∃ s, p.Leads s q ∧ ∀ d ∈ s, set.contains d = true) ↔
      q = p ∨ ∃ s, (p.pass c rest).Leads s q ∧ ∀ d ∈ s, set.contains d = true) := by
  constructor
  · rintro ⟨s, hs, hset⟩
    cases s with
    | nil => exact .inl hs.eq_of_nil
    | cons d s => exact .inr ⟨s, ((leads_cons_iff ha).mp hs).2, (List.forall_mem_cons.mp hset).2⟩
  · rintro (rfl | ⟨s, hs, hset⟩)
    · exact ⟨[], Leads.refl q, List.forall_mem_nil _⟩
    · exact ⟨c :: s, (leads_cons_iff ha).mpr ⟨rfl, hs⟩, List.forall_mem_cons.mpr ⟨hc, hset⟩⟩

theorem stops_eq_append (set : CharSet) (text : List Char) (p : Place) (found : List Place) :
    p.stops set text found = p.stops set text [] ++ found := by
  induction text generalizing p found with
  | nil => rfl
  | cons c rest ih =>
    simp only [stops]
    split
    · rw [ih (p.pass c rest) (p :: found), ih (p.pass c rest) [p], List.append_assoc]
      rfl
    · rfl

theorem stops_of_endsRun {set : CharSet} (h : p.EndsRun set) : p.stops set p.after [] = [p] := by
  cases ha : p.after with
  | nil => rfl
  | cons c rest =>
    have hc := h c (by rw [ha]; rfl)
    rw [stops, hc]
    rfl

theorem stops_of_cons {set : CharSet} {c : Char} {rest : List Char} (ha : p.after = c :: rest)
    (hc : set.contains c = true) :
    p.stops set p.after [] = (p.pass c rest).stops set (p.pass c rest).after [] ++ [p] := by
  rw [ha, stops, if_pos hc, stops_eq_append]
  rfl

/-- **The places of a run are those that characters of the set lead to.** -/
theorem mem_stops_iff {set : CharSet} :
    q ∈ p.stops set p.after [] ↔ ∃ s, p.Leads s q ∧ ∀ c ∈ s, set.contains c = true := by
  induction p using run_induction set with
  | stop p hends =>
    rw [stops_of_endsRun hends, List.mem_singleton]
    constructor
    · rintro rfl
      exact ⟨[], Leads.refl q, List.forall_mem_nil _⟩
    · rintro ⟨s, hs, hset⟩
      have hnil := hends.eq_nil hs hset
      subst hnil
      exact hs.eq_of_nil
  | step p c rest ha hc ih =>
    rw [stops_of_cons ha hc, List.mem_append, List.mem_singleton, ih, Leads.run_cons_iff ha hc]
    exact or_comm

/-! ## 3. What is found behind a run -/

variable {α : Type} {f : Place → Option α}

theorem findSome?_stops_eq_none_iff {set : CharSet} : (p.stops set p.after []).findSome? f = none ↔
    ∀ s q, p.Leads s q → (∀ c ∈ s, set.contains c = true) → f q = none := by
  simp only [List.findSome?_eq_none_iff, mem_stops_iff]
  constructor
  · intro h s q hs hset
    exact h q ⟨s, hs, hset⟩
  · rintro h q ⟨s, hs, hset⟩
    exact h s q hs hset

/-- **What is found behind a run is found from the last place of it from which there is anything to be
found.** -/
theorem findSome?_stops_eq_some_iff {set : CharSet} {a : α} :
    (p.stops set p.after []).findSome? f = some a ↔
      ∃ s q, p.Leads s q ∧ (∀ c ∈ s, set.contains c = true) ∧ f q = some a ∧
        ∀ t r, q.Leads t r → t ≠ [] → (∀ c ∈ t, set.contains c = true) → f r = none := by
  induction p using run_induction set with
  | stop p hends =>
    rw [stops_of_endsRun hends, List.findSome?_singleton]
    constructor
    · intro ha
      refine ⟨[], p, Leads.refl p, List.forall_mem_nil _, ha, fun t r ht hne hset => ?_⟩
      exact absurd (hends.eq_nil ht hset) hne
    · rintro ⟨s, q, hs, hset, ha, -⟩
      have hnil := hends.eq_nil hs hset
      subst hnil
      rw [← hs.eq_of_nil, ha]
  | step p c rest hafter hc ih =>
    rw [stops_of_cons hafter hc, List.findSome?_append, List.findSome?_singleton]
    cases hlater : ((p.pass c rest).stops set (p.pass c rest).after []).findSome? f with
    | some b =>
      -- a later place is preferred, and the same one is the last from `p` on
      rw [hlater] at ih
      rw [Option.some_or, ih]
      constructor
      · rintro ⟨s, q, hs, hset, hq⟩
        exact ⟨c :: s, q, (leads_cons_iff hafter).mpr ⟨rfl, hs⟩, List.forall_mem_cons.mpr ⟨hc, hset⟩, hq⟩
      · rintro ⟨s, q, hs, hset, ha, hlast⟩
        cases s with
        | nil =>
          -- something is found behind `p`, so `p` is not the last place
          obtain ⟨r, hr, hfound⟩ := List.exists_of_findSome?_eq_some hlater
          obtain ⟨t, ht, htset⟩ := mem_stops_iff.mp hr
          have hnone := hlast (c :: t) r (hs.eq_of_nil ▸ (leads_cons_iff hafter).mpr ⟨rfl, ht⟩)
            (List.cons_ne_nil c t) (List.forall_mem_cons.mpr ⟨hc, htset⟩)
          rw [hfound] at hnone
          cases hnone
        | cons d s =>
          exact ⟨s, q, ((leads_cons_iff hafter).mp hs).2, (List.forall_mem_cons.mp hset).2, ha, hlast⟩
    | none =>
      rw [Option.none_or]
      have hnone : ∀ s q, (p.pass c rest).Leads s q → (∀ d ∈ s, set.contains d = true) → f q = none :=
        findSome?_stops_eq_none_iff.mp hlater
      constructor
      · intro ha
        refine ⟨[], p, Leads.refl p, List.forall_mem_nil _, ha, fun t r ht hne hset => ?_⟩
        obtain ⟨d, t, rfl⟩ := List.exists_cons_of_ne_nil hne
        exact hnone t r ((leads_cons_iff hafter).mp ht).2 (List.forall_mem_cons.mp hset).2
      · rintro ⟨s, q, hs, hset, ha, -⟩
        rcases (Leads.run_cons_iff hafter hc).mp ⟨s, hs, hset⟩ with rfl | ⟨s, hs, hset⟩
        · exact ha
        · rw [hnone s q hs hset] at ha
          cases ha

/-- From the end of a run nothing need be given back. -/
theorem findSome?_stops_of_end {set : CharSet} {a : α} (hs : p.Leads s q)
    (hset : ∀ c ∈ s, set.contains c = true) (hends : q.EndsRun set) (ha : f q = some a) :
    (p.stops set p.after []).findSome? f = some a := by
  refine findSome?_stops_eq_some_iff.mpr ⟨s, q, hs, hset, ha, fun t r ht hne htset => ?_⟩
  exact absurd (hends.eq_nil ht htset) hne

/-- Every place has a run, even if it is empty. -/
theorem exists_run (set : CharSet) (p : Place) :
    ∃ s q, p.Leads s q ∧ (∀ c ∈ s, set.contains c = true) ∧ q.EndsRun set := by
  induction p using run_induction set with
  | stop p hends => exact ⟨[], p, Leads.refl p, List.forall_mem_nil _, hends⟩
  | step p c rest ha hc ih =>
    obtain ⟨s, q, hs, hset, hends⟩ := ih
    exact ⟨c :: s, q, (leads_cons_iff ha).mpr ⟨rfl, hs⟩, List.forall_mem_cons.mpr ⟨hc, hset⟩, hends⟩

/-! ## 4. Counts -/

theorem Leads.behind_next? {set : CharSet} {c : Char} (h : p.Leads (c :: s) q)
    (hnext : p.next? set = some r) : r.Leads s q := by
  obtain ⟨d, hd, -⟩ := next?_eq_some_iff.mp hnext
  have hr := ((leads_cons_iff hd.after).mp hd).2.eq_of_nil
  rw [hr]
  exact ((leads_cons_iff hd.after).mp h).2

theorem mem_next?_iff {set : CharSet} : q ∈ (p.next? set).toList ↔
    ∃ s, p.Leads s q ∧ s.length = 1 ∧ ∀ c ∈ s, set.contains c = true := by
  simp only [Option.mem_toList, next?_eq_some_iff, List.length_eq_one_iff]
  constructor
  · rintro ⟨c, hc, hset⟩
    exact ⟨[c], hc, ⟨c, rfl⟩, by simpa using hset⟩
  · rintro ⟨s, hs, ⟨c, rfl⟩, hset⟩
    exact ⟨c, hs, hset c List.mem_cons_self⟩

/-- **A count leads to the places behind as many characters as it allows.** -/
theorem mem_reach_iff {set : CharSet} {count : Count} : q ∈ p.reach set count ↔
    ∃ s, p.Leads s q ∧ count.Allows s.length ∧ ∀ c ∈ s, set.contains c = true := by
  cases count with
  | one => exact mem_next?_iff
  | atMostOne =>
    simp only [reach, List.mem_append, mem_next?_iff, List.mem_singleton, Count.Allows]
    constructor
    · rintro (⟨s, hs, hone, hset⟩ | rfl)
      · exact ⟨s, hs, Nat.le_of_eq hone, hset⟩
      · exact ⟨[], Leads.refl q, Nat.zero_le 1, List.forall_mem_nil _⟩
    · rintro ⟨s, hs, hone, hset⟩
      rcases Nat.lt_or_eq_of_le hone with hnone | hone
      · have hnil := List.length_eq_zero_iff.mp (Nat.lt_one_iff.mp hnone)
        subst hnil
        exact .inr hs.eq_of_nil
      · exact .inl ⟨s, hs, hone, hset⟩
  | any =>
    simp only [reach, mem_stops_iff, Count.Allows, true_and]
  | atLeastOne =>
    simp only [reach, Count.Allows]
    cases hnext : p.next? set with
    | none =>
      simp only [List.not_mem_nil, false_iff]
      rintro ⟨s, hs, hpos, hset⟩
      have hnil := (next?_eq_none_iff.mp hnext).eq_nil hs hset
      rw [hnil] at hpos
      cases hpos
    | some r =>
      obtain ⟨c, hc, hcset⟩ := next?_eq_some_iff.mp hnext
      simp only [mem_stops_iff]
      constructor
      · rintro ⟨s, hs, hset⟩
        exact ⟨c :: s, hc.trans hs, Nat.le_add_left 1 s.length, List.forall_mem_cons.mpr ⟨hcset, hset⟩⟩
      · rintro ⟨s, hs, hpos, hset⟩
        obtain ⟨d, s, rfl⟩ := List.exists_cons_of_length_pos hpos
        exact ⟨s, hs.behind_next? hnext, (List.forall_mem_cons.mp hset).2⟩

/-- **What is found from the farthest place that a count leads to is found behind the count.** -/
theorem findSome?_reach_of_farthest {set : CharSet} {count : Count} {a : α} (hs : p.Leads s q)
    (hallows : count.Allows s.length) (hset : ∀ c ∈ s, set.contains c = true)
    (hends : q.EndsRun set ∨ ¬ count.Allows (s.length + 1)) (ha : f q = some a) :
    (p.reach set count).findSome? f = some a := by
  have hnext : ∀ c, s = [c] → p.next? set = some q := by
    rintro c rfl
    exact next?_eq_some_iff.mpr ⟨c, hs, hset c List.mem_cons_self⟩
  cases count with
  | one =>
    obtain ⟨c, hc⟩ := List.length_eq_one_iff.mp hallows
    rw [reach, hnext c hc, Option.toList_some, List.findSome?_singleton, ha]
  | atMostOne =>
    cases s with
    | nil =>
      have hend := hends.resolve_right (fun hno => hno (Nat.le_refl 1))
      rw [hs.eq_of_nil] at hend ha
      rw [reach, next?_eq_none_iff.mpr hend, Option.toList_none, List.nil_append,
        List.findSome?_singleton, ha]
    | cons c s =>
      have hnil := List.length_eq_zero_iff.mp (Nat.le_zero.mp (Nat.le_of_succ_le_succ hallows))
      rw [reach, hnext c (by rw [hnil]), Option.toList_some, List.singleton_append, List.findSome?_cons,
        ha]
  | any => exact findSome?_stops_of_end hs hset (hends.resolve_right (fun hno => hno trivial)) ha
  | atLeastOne =>
    have hend := hends.resolve_right (fun hno => hno (Nat.le_add_left 1 s.length))
    obtain ⟨c, s, rfl⟩ := List.exists_cons_of_length_pos hallows
    obtain ⟨hc, hrest⟩ := List.forall_mem_cons.mp hset
    obtain ⟨r, hr, hq⟩ := leads_append_iff (s := [c]).mp hs
    simp only [reach, next?_eq_some_iff.mpr ⟨c, hr, hc⟩]
    exact findSome?_stops_of_end hq hrest hend ha

end Place

/-! ## 5. From places to searches -/

namespace Pattern

variable {p : Pattern} {text : String} {m n : Match}

/-- **A match with some text is reported unless an earlier one runs across its front.** -/
theorem mem_search_of_uncrossed (htext : m.start.text = text.toList)
    (hm : p.matchAt? m.start = some m) (htakes : m.start.offset < m.stop.offset)
    (hfree : ∀ n, n.start.text = text.toList → p.matchAt? n.start = some n →
      n.start.offset < m.start.offset → n.stop.offset ≤ m.start.offset) : m ∈ p.search text := by
  obtain ⟨n, hn, hle, hlt⟩ := covered_by_search htext hm htakes
  obtain ⟨hntext, -, hnmatch⟩ := mem_search hn
  rcases Nat.lt_or_eq_of_le hle with hbefore | heq
  · have := hfree n hntext hnmatch hbefore
    omega
  · rw [Place.eq_of_offset_eq (hntext.trans htext.symm) heq, hm] at hnmatch
    cases hnmatch
    exact hn

/-- One of two reported matches ends in front of the other, unless they are the same. -/
theorem apart_of_mem_search (hm : m ∈ p.search text) (hn : n ∈ p.search text) :
    m = n ∨ m.stop.offset ≤ n.start.offset ∨ n.stop.offset ≤ m.start.offset := by
  have hapart := pairwise_search p text
  refine List.Pairwise.forall_of_forall_of_flip (R := fun m n : Match => m = n ∨
    m.stop.offset ≤ n.start.offset ∨ n.stop.offset ≤ m.start.offset) (fun _ _ => .inl rfl) ?_ ?_ hm hn
  · exact hapart.imp (fun h => .inr (.inl h))
  · exact hapart.imp (fun h => .inr (.inr h))

/-- **If what begins inside of a match ends where it does, the matches that are reported are those that
begin inside of no other.** -/
theorem mem_search_iff_uncrossed (htakes : ∀ m, p.matchAt? m.start = some m →
      m.start.offset < m.stop.offset)
    (hinside : ∀ m n, m.start.text = n.start.text → p.matchAt? m.start = some m →
      p.matchAt? n.start = some n → m.start.offset ≤ n.start.offset →
      n.start.offset < m.stop.offset → n.stop = m.stop) :
    m ∈ p.search text ↔ m.start.text = text.toList ∧ p.matchAt? m.start = some m ∧
      ∀ n, n.start.text = text.toList → p.matchAt? n.start = some n →
        n.start.offset < m.start.offset → n.stop.offset ≤ m.start.offset := by
  constructor
  · intro hm
    obtain ⟨htext, -, hmatch⟩ := mem_search hm
    refine ⟨htext, hmatch, fun n hntext hnmatch hlt => ?_⟩
    by_contra hcross
    -- what is reported in place of `n` ends with it, and so runs across the front of `m` too
    obtain ⟨n', hn', hle, hcovers⟩ := covered_by_search hntext hnmatch (htakes n hnmatch)
    obtain ⟨hntext', -, hnmatch'⟩ := mem_search hn'
    have hstop := hinside n' n (hntext'.trans hntext.symm) hnmatch' hnmatch hle hcovers
    have hmtakes := htakes m hmatch
    rw [hstop] at hcross
    rcases apart_of_mem_search hm hn' with rfl | hbefore | hbehind
    · omega
    · omega
    · omega
  · rintro ⟨htext, hmatch, hfree⟩
    exact mem_search_of_uncrossed htext hmatch (htakes m hmatch) hfree

/-- Reported matches with some text do not end at one place. -/
theorem eq_of_stop_eq (hm : m ∈ p.search text) (hn : n ∈ p.search text)
    (hmtakes : m.start.offset < m.stop.offset) (hntakes : n.start.offset < n.stop.offset)
    (hstop : m.stop = n.stop) : m = n := by
  rcases apart_of_mem_search hm hn with heq | hle | hle
  · exact heq
  · rw [hstop] at hle
    omega
  · rw [← hstop] at hle
    omega

/-- **If all matches of places end where the first one does, that one is reported and no other.** -/
theorem search_eq_singleton (htext : m.start.text = text.toList) (hm : p.matchAt? m.start = some m)
    (htakes : m.start.offset < m.stop.offset)
    (hall : ∀ n, n.start.text = text.toList → p.matchAt? n.start = some n →
      m.start.offset ≤ n.start.offset ∧ n.start.offset < n.stop.offset ∧ n.stop = m.stop) :
    p.search text = [m] := by
  have hmem : m ∈ p.search text := by
    refine mem_search_of_uncrossed htext hm htakes (fun n hntext hn hlt => ?_)
    have := (hall n hntext hn).1
    omega
  have honly : ∀ n ∈ p.search text, n = m := by
    intro n hn
    obtain ⟨hntext, -, hnmatch⟩ := mem_search hn
    obtain ⟨-, hntakes, hstop⟩ := hall n hntext hnmatch
    exact eq_of_stop_eq hn hmem hntakes htakes hstop
  have hrepeat := List.eq_replicate_of_mem honly
  have hapart := pairwise_search p text
  cases hlength : (p.search text).length with
  | zero =>
    rw [List.length_eq_zero_iff.mp hlength] at hmem
    cases hmem
  | succ k =>
    -- a second one would have to begin behind the first
    rw [hlength] at hrepeat
    rw [hrepeat] at hapart ⊢
    cases k with
    | zero => rfl
    | succ k =>
      have := List.rel_of_pairwise_cons hapart (List.mem_cons_self)
      omega

end Pattern

/-- Whether a rule can be used and what a search with it reports is as expected, for every text. -/
def Rule.Reports (r : Rule) (expected : String → List Pattern.Match → Prop) : Prop :=
  ∃ p, r.compile = .ok p ∧ ∀ text, expected text (p.search text)

end KeywordGrammar
