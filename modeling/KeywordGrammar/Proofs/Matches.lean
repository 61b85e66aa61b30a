/-
# Successive matches

What a search reports is fixed by two facts about single places: which match begins there, and that
the search goes on behind a match that took some text.  This file proves the general half of every
statement about the matches of a rule, whatever its pattern:

* `Place.Leads` relates two places of one text by the characters between them; all ways through a
  pattern lead forwards (`leads_of_mem_ways`);
* `pairwise_search`: the matches come in the order of the text and do not overlap;
* `mem_search`: each of them is a stretch of the text, and the match that begins at its place;
* `covered_by_search`: a place at which a match with some text would begin is inside a reported
  match or at the front of one.

The last one is the completeness of the search.  It cannot say that the match of that place is
reported, since an earlier match may run across the place.
-/
import KeywordGrammar.Pattern.Starts
import Mathlib.Data.List.Forall2

namespace KeywordGrammar

/-! ## 1. Lengths in bytes -/

theorem byteLength_append : ∀ (s t : List Char), byteLength (s ++ t) = byteLength s + byteLength t
  | [], t => by simp [byteLength]
  | c :: s, t => by simp [byteLength, byteLength_append s t, Nat.add_assoc]

theorem byteLength_reverse : ∀ s : List Char, byteLength s.reverse = byteLength s
  | [] => rfl
  | c :: s => by
    rw [List.reverse_cons, byteLength_append, byteLength_reverse s]
    simp [byteLength, Nat.add_comm]

theorem byteLength_eq_zero_iff {s : List Char} : byteLength s = 0 ↔ s = [] := by
  cases s with
  | nil => simp [byteLength]
  | cons c s =>
    have := c.utf8Size_pos
    simp only [byteLength, reduceCtorEq, iff_false]
    omega

/-- The bytes of some characters are the bytes of the text that they make up. -/
theorem byteLength_eq : ∀ s : List Char, byteLength s = (String.ofList s).utf8ByteSize
  | [] => rfl
  | c :: s => by
    rw [byteLength, String.ofList_cons, String.utf8ByteSize_append, String.utf8ByteSize_singleton,
      byteLength_eq s]

/-! ## 2. From one place to a later one -/

namespace Place

/-- Whether some characters lead from one place to another. -/
structure Leads (p : Place) (letters : List Char) (q : Place) : Prop where
  before : q.before = letters.reverse ++ p.before
  after : p.after = letters ++ q.after

namespace Leads

variable {p q r : Place} {s t : List Char}

theorem refl (p : Place) : p.Leads [] p := ⟨rfl, rfl⟩

theorem trans (h : p.Leads s q) (h' : q.Leads t r) : p.Leads (s ++ t) r := by
  constructor
  · rw [h'.before, h.before, List.reverse_append, List.append_assoc]
  · rw [h.after, h'.after, List.append_assoc]

theorem eq_of_nil (h : p.Leads [] q) : q = p := Place.ext' h.before h.after.symm

theorem text_eq (h : p.Leads s q) : q.text = p.text := by
  simp [Place.text, h.before, h.after]

theorem offset_eq (h : p.Leads s q) : q.offset = p.offset + byteLength s := by
  rw [q.offset_eq, p.offset_eq, h.before, byteLength_append, byteLength_reverse, Nat.add_comm]

/-- Only the text between two places leads from one to the other. -/
theorem letters_eq (h : p.Leads s q) (h' : p.Leads t q) : s = t :=
  List.append_cancel_right (h.after.symm.trans h'.after)

/-- Some text lies between two places iff their offsets differ. -/
theorem offset_lt_iff (h : p.Leads s q) : p.offset < q.offset ↔ s ≠ [] := by
  have h₁ := h.offset_eq
  have h₂ := byteLength_eq_zero_iff (s := s)
  rw [Ne, ← h₂]
  omega

end Leads

theorem leads_pass {p : Place} {c : Char} {rest : List Char} (h : p.after = c :: rest) :
    p.Leads [c] (p.pass c rest) := ⟨rfl, h⟩

theorem leads_cons_iff {p q : Place} {c d : Char} {rest s : List Char} (h : p.after = c :: rest) :
    p.Leads (d :: s) q ↔ d = c ∧ (p.pass c rest).Leads s q := by
  constructor
  · intro hs
    have hd := hs.after
    rw [h, List.cons_append, List.cons.injEq] at hd
    obtain ⟨rfl, hrest⟩ := hd
    exact ⟨rfl, by simp [hs.before, pass], hrest⟩
  · rintro ⟨rfl, hs⟩
    exact (leads_pass h).trans hs

theorem eq_nil_of_leads {p q : Place} {s : List Char} (h : p.after = []) (hs : p.Leads s q) :
    s = [] :=
  (List.append_eq_nil_iff.mp (hs.after.symm.trans h)).1

/-- Of two places of one text, the one with the smaller offset leads to the other. -/
theorem leads_of_offset_le {p q : Place} (htext : p.text = q.text) (h : p.offset ≤ q.offset) :
    ∃ s, p.Leads s q := by
  have hp : p.before.reverse <+: q.text := ⟨p.after, htext⟩
  have hq : q.before.reverse <+: q.text := ⟨q.after, rfl⟩
  rcases List.prefix_or_prefix_of_prefix hp hq with ⟨s, hs⟩ | ⟨s, hs⟩
  · have hbefore : q.before = s.reverse ++ p.before := by
      have := congrArg List.reverse hs
      simpa using this.symm
    refine ⟨s, hbefore, ?_⟩
    have := htext
    simp only [Place.text, hbefore, List.reverse_append, List.reverse_reverse,
      List.append_assoc] at this
    exact List.append_cancel_left this
  · -- what stands before `q` leads to `p`, so nothing can stand between them
    have hbefore : p.before = s.reverse ++ q.before := by
      have := congrArg List.reverse hs
      simpa using this.symm
    have hlen : byteLength s = 0 := by
      have := p.offset_eq
      rw [hbefore, byteLength_append, byteLength_reverse, ← q.offset_eq] at this
      omega
    rw [byteLength_eq_zero_iff] at hlen
    subst hlen
    have hpq : q = p := by
      refine Place.ext' (by simpa using hbefore.symm) ?_
      simp only [Place.text, hbefore, List.reverse_nil, List.nil_append] at htext
      exact (List.append_cancel_left htext).symm
    exact ⟨[], hpq ▸ Leads.refl p⟩

/-- Places of one text with the same offset are the same. -/
theorem eq_of_offset_eq {p q : Place} (htext : p.text = q.text) (h : p.offset = q.offset) :
    p = q := by
  obtain ⟨s, hs⟩ := leads_of_offset_le htext (Nat.le_of_eq h)
  have hnil : s = [] := by
    by_contra hne
    have := hs.offset_lt_iff.mpr hne
    omega
  subst hnil
  exact hs.eq_of_nil.symm

/-- The end of a text. -/
def finish (text : String) : Place :=
  ⟨text.toList.reverse, [], byteLength text.toList.reverse, rfl⟩

theorem leads_start_finish (text : String) : (start text).Leads text.toList (finish text) := by
  constructor
  · exact (List.append_nil _).symm
  · exact (List.append_nil _).symm

theorem offset_finish (text : String) : (finish text).offset = text.utf8ByteSize := by
  have hbytes : byteLength text.toList.reverse = text.utf8ByteSize := by
    rw [byteLength_reverse, byteLength_eq, String.ofList_toList]
  exact hbytes

/-! ## 3. All later places -/

theorem mem_onwards_iff {q : Place} : ∀ {text : List Char} {p : Place}, p.after = text →
    (q ∈ p.onwards ↔ ∃ s, p.Leads s q)
  | [], p, h => by
    rw [onwards_of_nil h, List.mem_singleton]
    constructor
    · rintro rfl
      exact ⟨[], Leads.refl q⟩
    · rintro ⟨s, hs⟩
      have hnil := eq_nil_of_leads h hs
      exact (hnil ▸ hs).eq_of_nil
  | c :: rest, p, h => by
    rw [onwards_of_cons h, List.mem_cons, mem_onwards_iff (p := p.pass c rest) rfl]
    constructor
    · rintro (rfl | ⟨s, hs⟩)
      · exact ⟨[], Leads.refl q⟩
      · exact ⟨c :: s, (leads_cons_iff h).mpr ⟨rfl, hs⟩⟩
    · rintro ⟨s, hs⟩
      cases s with
      | nil => exact .inl hs.eq_of_nil
      | cons d s => exact .inr ⟨s, ((leads_cons_iff h).mp hs).2⟩

/-- The places of a text are all places with that text around them. -/
theorem mem_onwards_start_iff {text : String} {q : Place} :
    q ∈ (start text).onwards ↔ q.text = text.toList := by
  rw [mem_onwards_iff rfl]
  constructor
  · rintro ⟨s, hs⟩
    rw [hs.text_eq]
    simp [Place.text, start]
  · intro h
    exact ⟨q.before.reverse, by simp [start], h.symm⟩

theorem pairwise_onwards : ∀ {text : List Char} {p : Place}, p.after = text →
    p.onwards.Pairwise (fun a b => a.offset < b.offset)
  | [], p, h => by simp [onwards_of_nil h]
  | c :: rest, p, h => by
    rw [onwards_of_cons h]
    refine List.pairwise_cons.mpr ⟨?_, pairwise_onwards (p := p.pass c rest) rfl⟩
    intro q hq
    obtain ⟨s, hs⟩ := (mem_onwards_iff rfl).mp hq
    exact ((leads_pass h).trans hs).offset_lt_iff.mpr (by simp)

/-! ## 4. Single parts of a pattern -/

theorem skip?_eq_some_iff {caseless : Bool} {q : Place} : ∀ {letters : List Char} {p : Place},
    p.skip? caseless letters = some q ↔
      ∃ s, p.Leads s q ∧ List.Forall₂ (fun l c => sameChar caseless l c = true) letters s
  | [], p => by
    simp only [skip?, Option.some.injEq, List.forall₂_nil_left_iff, exists_eq_right]
    exact ⟨fun h => h ▸ Leads.refl p, fun h => h.eq_of_nil.symm⟩
  | l :: letters, p => by
    cases h : p.after with
    | nil =>
      simp only [skip?, h, reduceCtorEq, false_iff]
      rintro ⟨s, hs, hsame⟩
      rw [eq_nil_of_leads h hs] at hsame
      cases hsame
    | cons c rest =>
      simp only [skip?, h]
      split
      · rename_i hc
        rw [skip?_eq_some_iff]
        constructor
        · rintro ⟨s, hs, hsame⟩
          exact ⟨c :: s, (leads_cons_iff h).mpr ⟨rfl, hs⟩, .cons hc hsame⟩
        · rintro ⟨s, hs, hsame⟩
          cases hsame with
          | cons _ hsame => exact ⟨_, ((leads_cons_iff h).mp hs).2, hsame⟩
      · rename_i hc
        simp only [reduceCtorEq, false_iff]
        rintro ⟨s, hs, hsame⟩
        cases hsame with
        | cons hd _ =>
          obtain ⟨rfl, -⟩ := (leads_cons_iff h).mp hs
          exact hc hd

theorem next?_eq_some_iff {set : CharSet} {p q : Place} :
    p.next? set = some q ↔ ∃ c, p.Leads [c] q ∧ set.contains c = true := by
  cases h : p.after with
  | nil =>
    simp only [next?, h, reduceCtorEq, false_iff]
    rintro ⟨c, hs, -⟩
    exact List.cons_ne_nil c [] (eq_nil_of_leads h hs)
  | cons c rest =>
    simp only [next?, h]
    constructor
    · intro hq
      split at hq
      · rename_i hc
        cases hq
        exact ⟨c, leads_pass h, hc⟩
      · cases hq
    · rintro ⟨d, hs, hd⟩
      obtain ⟨rfl, hq⟩ := (leads_cons_iff h).mp hs
      rw [if_pos hd, hq.eq_of_nil]

end Place

/-! ## 5. Ways lead forwards -/

namespace Pattern

theorem leads_of_passes {set : CharSet} {p q : Place} (h : Passes set p q) :
    ∃ s, p.Leads s q := by
  induction h with
  | here p => exact ⟨[], Place.Leads.refl p⟩
  | next hn _ ih =>
    obtain ⟨c, hc, -⟩ := Place.next?_eq_some_iff.mp hn
    obtain ⟨s, hs⟩ := ih
    exact ⟨_, hc.trans hs⟩

theorem leads_of_mem_stops {set : CharSet} {p q : Place} (h : q ∈ p.stops set p.after []) :
    ∃ s, p.Leads s q := by
  rcases passes_of_mem_stops set p.after p q [] rfl h with hnil | hpass
  · cases hnil
  · exact leads_of_passes hpass

theorem leads_of_mem_reach {set : CharSet} {count : Count} {p q : Place}
    (h : q ∈ p.reach set count) : ∃ s, p.Leads s q := by
  have hone : ∀ {r : Place}, p.next? set = some r → ∃ s, p.Leads s r := by
    intro r hr
    obtain ⟨c, hc, -⟩ := Place.next?_eq_some_iff.mp hr
    exact ⟨_, hc⟩
  cases count with
  | one => exact hone (Option.mem_toList.mp h)
  | atMostOne =>
    rcases List.mem_append.mp h with h | h
    · exact hone (Option.mem_toList.mp h)
    · rw [List.mem_singleton.mp h]
      exact ⟨[], Place.Leads.refl p⟩
  | any => exact leads_of_mem_stops h
  | atLeastOne =>
    simp only [Place.reach] at h
    split at h
    · rename_i r hr
      obtain ⟨s, hs⟩ := hone hr
      obtain ⟨t, ht⟩ := leads_of_mem_stops h
      exact ⟨_, hs.trans ht⟩
    · cases h

/-- Each way through a pattern ends at its beginning or behind it. -/
theorem leads_of_mem_ways : ∀ {p : Pattern} {v w : Way}, w ∈ p.ways v →
    ∃ s, v.place.Leads s w.place
  | literal caseless text, v, w, h => by
    simp only [ways, Option.mem_toList, Option.map_eq_some_iff] at h
    obtain ⟨q, hq, rfl⟩ := h
    obtain ⟨s, hs, -⟩ := Place.skip?_eq_some_iff.mp hq
    exact ⟨s, hs⟩
  | run set count, v, w, h => by
    obtain ⟨q, hq, rfl⟩ := List.mem_map.mp h
    exact leads_of_mem_reach hq
  | anchor a, v, w, h => by
    simp only [ways] at h
    split at h
    · rw [List.mem_singleton.mp h]
      exact ⟨[], Place.Leads.refl _⟩
    · cases h
  | seq p q, v, w, h => by
    obtain ⟨u, hu, hw⟩ := List.mem_flatMap.mp h
    obtain ⟨s, hs⟩ := leads_of_mem_ways hu
    obtain ⟨t, ht⟩ := leads_of_mem_ways hw
    exact ⟨_, hs.trans ht⟩
  | either p q, v, w, h => by
    rcases List.mem_append.mp h with h | h
    · exact leads_of_mem_ways h
    · exact leads_of_mem_ways h
  | group index p, v, w, h => by
    obtain ⟨u, hu, rfl⟩ := List.mem_map.mp h
    exact leads_of_mem_ways (w := u) hu
  | foreign, v, w, h => by cases h

/-! ## 6. The match of a place -/

/-- A match is the first way through the pattern. -/
theorem matchAt?_eq_some_iff {p : Pattern} {place : Place} {m : Match} :
    p.matchAt? place = some m ↔
      ∃ w, (p.ways ⟨place, []⟩).head? = some w ∧ m = ⟨place, w.place, w.captures⟩ := by
  rw [matchAt?, firstWay_eq]
  cases p.ways ⟨place, []⟩ with
  | nil => simp
  | cons w rest => simp [eq_comm]

theorem start_of_matchAt? {p : Pattern} {place : Place} {m : Match}
    (h : p.matchAt? place = some m) : m.start = place := by
  obtain ⟨w, -, rfl⟩ := matchAt?_eq_some_iff.mp h
  rfl

theorem leads_of_matchAt? {p : Pattern} {place : Place} {m : Match}
    (h : p.matchAt? place = some m) : ∃ s, place.Leads s m.stop := by
  obtain ⟨w, hw, rfl⟩ := matchAt?_eq_some_iff.mp h
  exact leads_of_mem_ways (List.mem_of_mem_head? hw)

/-! ## 7. The matches of a text -/

/-- What is said of each reported match: it begins at one of the places, it is the match of that
place, and nothing that was matched before reaches into it. -/
theorem mem_matchesAlong {p : Pattern} {m : Match} : ∀ {places : List Place} {ended : Option Nat},
    m ∈ p.matchesAlong ended places →
      m.start ∈ places ∧ p.matchAt? m.start = some m ∧ ∀ e ∈ ended, e ≤ m.start.offset
  | [], _, h => by cases h
  | here :: later, ended, h => by
    -- what the rest of the search reports is about later places
    have hlater : ∀ {ended' : Option Nat}, m ∈ p.matchesAlong ended' later →
        (∀ e ∈ ended, ∃ e' ∈ ended', e ≤ e') →
        m.start ∈ here :: later ∧ p.matchAt? m.start = some m ∧
          ∀ e ∈ ended, e ≤ m.start.offset := by
      intro ended' hm hended
      obtain ⟨hplace, hmatch, hbehind⟩ := mem_matchesAlong hm
      refine ⟨List.mem_cons_of_mem _ hplace, hmatch, fun e he => ?_⟩
      obtain ⟨e', he', hle⟩ := hended e he
      exact Nat.le_trans hle (hbehind e' he')
    have hsame := fun hm : m ∈ p.matchesAlong ended later =>
      hlater hm (fun e he => ⟨e, he, Nat.le_refl e⟩)
    simp only [matchesAlong] at h
    split at h
    · exact hsame h
    · rename_i hended
      have hfree : ∀ e ∈ ended, e ≤ here.offset := by
        intro e he
        rw [Option.mem_def.mp he] at hended
        simpa using hended
      cases hat : p.matchAt? here with
      | none =>
        rw [hat] at h
        exact hsame h
      | some n =>
        rw [hat] at h
        have hstart := start_of_matchAt? hat
        have hn : n.start ∈ here :: later ∧ p.matchAt? n.start = some n ∧
            ∀ e ∈ ended, e ≤ n.start.offset := by
          rw [hstart]
          exact ⟨List.mem_cons_self, hat, hfree⟩
        simp only at h
        split at h
        · rename_i htakes
          rcases List.mem_cons.mp h with rfl | h
          · exact hn
          · refine hlater h (fun e he => ⟨_, rfl, ?_⟩)
            exact Nat.le_trans (hfree e he) (Nat.le_of_lt htakes)
        · split at h
          · exact hsame h
          · rcases List.mem_cons.mp h with rfl | h
            · exact hn
            · exact hsame h

/-- The matches come in the order of the text, and none begins inside of another. -/
theorem pairwise_matchesAlong {p : Pattern} : ∀ {places : List Place} {ended : Option Nat},
    places.Pairwise (fun a b => a.offset < b.offset) →
      (p.matchesAlong ended places).Pairwise (fun m n => m.stop.offset ≤ n.start.offset)
  | [], _, _ => .nil
  | here :: later, ended, h => by
    obtain ⟨hhere, hlater⟩ := List.pairwise_cons.mp h
    have ih : ∀ ended', (p.matchesAlong ended' later).Pairwise
        (fun m n => m.stop.offset ≤ n.start.offset) := fun _ => pairwise_matchesAlong hlater
    simp only [matchesAlong]
    split
    · exact ih ended
    · cases hat : p.matchAt? here with
      | none => exact ih ended
      | some m =>
        simp only
        split
        · refine List.pairwise_cons.mpr ⟨fun n hn => ?_, ih _⟩
          exact (mem_matchesAlong hn).2.2 _ rfl
        · rename_i hempty
          split
          · exact ih ended
          · refine List.pairwise_cons.mpr ⟨fun n hn => ?_, ih _⟩
            have := hhere n.start (mem_matchesAlong hn).1
            omega

/-- **A place at which a match with some text would begin, and which no earlier match has run across,
is inside of a reported match.** -/
theorem covered_of_matchAt? {p : Pattern} {q : Place} {m : Match} (hm : p.matchAt? q = some m)
    (htakes : q.offset < m.stop.offset) : ∀ {places : List Place} {ended : Option Nat},
    places.Pairwise (fun a b => a.offset < b.offset) → q ∈ places →
      (∀ e ∈ ended, e ≤ q.offset) →
      ∃ n ∈ p.matchesAlong ended places, n.start.offset ≤ q.offset ∧ q.offset < n.stop.offset
  | [], _, _, hq, _ => by cases hq
  | here :: later, ended, h, hq, hended => by
    obtain ⟨hhere, hlater⟩ := List.pairwise_cons.mp h
    have ih : ∀ ended', q ∈ later → (∀ e ∈ ended', e ≤ q.offset) →
        ∃ n ∈ p.matchesAlong ended' later, n.start.offset ≤ q.offset ∧ q.offset < n.stop.offset :=
      fun _ => covered_of_matchAt? hm htakes hlater
    simp only [matchesAlong]
    rcases List.mem_cons.mp hq with rfl | hq
    · -- the match of the first place is reported
      have hfree : ended.any (q.offset < ·) = false := by
        cases ended with
        | none => rfl
        | some e => simpa using hended e rfl
      simp only [hfree, Bool.false_eq_true, if_false, hm, if_pos htakes]
      have hstart := start_of_matchAt? hm
      exact ⟨m, List.mem_cons_self, Nat.le_of_eq (by rw [hstart]), htakes⟩
    · split
      · exact ih ended hq hended
      · cases hat : p.matchAt? here with
        | none => exact ih ended hq hended
        | some n =>
          have hstart := start_of_matchAt? hat
          have hbefore := hhere q hq
          simp only
          split
          · -- the match of the first place runs across `q` or ends in front of it
            by_cases hacross : q.offset < n.stop.offset
            · refine ⟨n, List.mem_cons_self, ?_, hacross⟩
              rw [hstart]
              exact Nat.le_of_lt hbefore
            · obtain ⟨n', hn', hcover⟩ := ih (some n.stop.offset) hq (by
                rintro e ⟨rfl⟩
                exact Nat.le_of_not_lt hacross)
              exact ⟨n', List.mem_cons_of_mem _ hn', hcover⟩
          · split
            · exact ih ended hq hended
            · obtain ⟨n', hn', hcover⟩ := ih ended hq hended
              exact ⟨n', List.mem_cons_of_mem _ hn', hcover⟩

/-! ## 8. Searches -/

/-- What a search reports is in the order of the text. -/
theorem pairwise_search (p : Pattern) (text : String) :
    (p.search text).Pairwise (fun m n => m.stop.offset ≤ n.start.offset) := by
  rw [search_eq, allMatches]
  exact pairwise_matchesAlong (Place.pairwise_onwards rfl)

/-- What a search reports is a stretch of its text, and the match of its place. -/
theorem mem_search {p : Pattern} {text : String} {m : Match} (h : m ∈ p.search text) :
    m.start.text = text.toList ∧ (∃ s, m.start.Leads s m.stop) ∧ p.matchAt? m.start = some m := by
  rw [search_eq, allMatches] at h
  obtain ⟨hplace, hmatch, -⟩ := mem_matchesAlong h
  exact ⟨Place.mem_onwards_start_iff.mp hplace, leads_of_matchAt? hmatch, hmatch⟩

/-- A search covers each place of its text at which a match with some text would begin. -/
theorem covered_by_search {p : Pattern} {text : String} {q : Place} {m : Match}
    (htext : q.text = text.toList) (hm : p.matchAt? q = some m)
    (htakes : q.offset < m.stop.offset) :
    ∃ n ∈ p.search text, n.start.offset ≤ q.offset ∧ q.offset < n.stop.offset := by
  rw [search_eq, allMatches]
  refine covered_of_matchAt? hm htakes (Place.pairwise_onwards rfl)
    (Place.mem_onwards_start_iff.mpr htext) ?_
  intro e he
  cases he

end Pattern

end KeywordGrammar
