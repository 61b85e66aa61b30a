/-
# Where matches may start

Following the ways through a pattern from every place of a text would take long if each of them runs
far ahead to find out that the rest of the pattern does not fit.  So the search first settles, from
the end of the text to its front, at which places a way through the pattern can start at all, and
then looks for matches only there.

A column holds an answer for each place of the text.  Columns are worked out from the end of the
pattern: the column for a part says from which places it leads to a place with the answer yes in the
column for what follows.  `search_eq` says that no match is lost.
-/
import KeywordGrammar.Pattern.Search

namespace KeywordGrammar.Pattern

/-! ## 1. Columns -/

/-- An answer for each place of a text; missing answers are no. -/
abbrev Column := List Bool

namespace Column

/-- As many answers as `n`, the added ones being no. -/
def padded (n : Nat) (k : Column) : Column := k ++ List.replicate (n - k.length) false

/-- Yes where one of two columns says so. -/
def or (k l : Column) : Column :=
  let n := max k.length l.length
  List.zipWith (· || ·) (k.padded n) (l.padded n)

/-- Yes where the column says so and a condition holds. -/
def restrict (places : List Place) (holds : Place → Bool) (k : Column) : Column :=
  List.zipWith (fun q yes => yes && holds q) places k

/-- Yes where one character of a set leads to a place with the answer yes. -/
def behindOne (places : List Place) (set : CharSet) (k : Column) : Column :=
  restrict places (fun q => (q.next? set).isSome) (k.drop 1)

/-- Yes where any number of characters of a set leads to a place with the answer yes. -/
def behindAny (places : List Place) (set : CharSet) (k : Column) : Column :=
  (places.zip k).foldr
    (fun q later => (q.2 || ((q.1.next? set).isSome && later.headD false)) :: later) []

end Column

/-- Where the pattern leads to a place with the answer yes. -/
def column (places : List Place) : Pattern → Column → Column
  | literal caseless text, k =>
    .restrict places (fun q => (q.skip? caseless text).isSome) (k.drop text.length)
  | run set .one, k => .behindOne places set k
  | run set .atMostOne, k => (Column.behindOne places set k).or k
  | run set .any, k => .behindAny places set k
  | run set .atLeastOne, k => .behindOne places set (.behindAny places set k)
  | anchor a, k => .restrict places a.holds k
  | seq p q, k => column places p (column places q k)
  | either p q, k => (column places p k).or (column places q k)
  | group _ p, k => column places p k
  | foreign, _ => []

/-! ## 2. The search -/

/-- Whether no part of the pattern can run far ahead. -/
def isShort : Pattern → Bool
  | literal _ _ => true
  | run _ count => count == .one || count == .atMostOne
  | anchor _ => true
  | seq p q => p.isShort && q.isShort
  | either p q => p.isShort && q.isShort
  | group _ p => p.isShort
  | foreign => true

/-- The places at which a match may start, out of all places of a text. -/
def starts (p : Pattern) (places : List Place) : List Place :=
  if p.isShort then places
  else
    let answers := (p.column places (places.map (fun _ => true))).padded places.length
    ((places.zip answers).filter Prod.snd).map Prod.fst

/-- The matches that begin at some places in front of those that are `found`, the last one first. -/
def matchesOnto (p : Pattern) (found : List Match) (ended : Option Nat) : List Place → List Match
  | [] => found
  | here :: later =>
    if ended.any (here.offset < ·) then matchesOnto p found ended later
    else
      match p.matchAt? here with
      | none => matchesOnto p found ended later
      | some m =>
        if here.offset < m.stop.offset then
          matchesOnto p (m :: found) (some m.stop.offset) later
        else if ended == some here.offset then matchesOnto p found ended later
        else matchesOnto p (m :: found) ended later

/-- The successive matches in a text, looked for only where one may start. -/
def search (p : Pattern) (text : String) : List Match :=
  (p.matchesOnto [] none (p.starts (Place.start text).onwards)).reverse

/-! ## 3. What a column covers -/

/-- Whether the column says yes at each place that has a property. -/
def Covers (places : List Place) (k : Column) (holds : Place → Prop) : Prop :=
  ∀ (i : Nat) (q : Place), places[i]? = some q → holds q → k[i]? = some true

/-- Whether the places follow each other in a text. -/
def Linked (places : List Place) : Prop :=
  ∀ (i : Nat) (q : Place) (c : Char) (rest : List Char), places[i]? = some q →
    q.after = c :: rest → places[i + 1]? = some (q.pass c rest)

theorem linked_onwards : ∀ (text : List Char) (p : Place), p.after = text → Linked p.onwards
  | [], p, h => by
    rw [Place.onwards_of_nil h]
    intro i q c rest hq ha
    cases i with
    | zero => simp only [List.getElem?_cons_zero, Option.some.injEq] at hq; subst hq; simp [h] at ha
    | succ i => simp at hq
  | d :: more, p, h => by
    have ih := linked_onwards more (p.pass d more) rfl
    rw [Place.onwards_of_cons h]
    intro i q c rest hq ha
    cases i with
    | zero =>
      simp only [List.getElem?_cons_zero, Option.some.injEq] at hq
      subst hq
      rw [h] at ha
      cases ha
      cases more with
      | nil => simp [Place.onwards_of_nil (p := p.pass d []) rfl]
      | cons e more => simp [Place.onwards_of_cons (p := p.pass d (e :: more)) rfl]
    | succ i =>
      simp only [List.getElem?_cons_succ] at hq ⊢
      exact ih i q c rest hq ha

namespace Covers

variable {places : List Place} {k l : Column} {holds holds' : Place → Prop}

theorem mono (h : Covers places k holds) (himp : ∀ q, holds' q → holds q) :
    Covers places k holds' := fun i q hq h' => h i q hq (himp q h')

theorem padded (n : Nat) (h : Covers places k holds) : Covers places (k.padded n) holds := by
  intro i q hq hh
  have := h i q hq hh
  have hlt : i < k.length := (List.getElem?_eq_some_iff.1 this).1
  rw [Column.padded, List.getElem?_append_left hlt, this]

theorem or_left (h : Covers places k holds) : Covers places (k.or l) holds := by
  intro i q hq hh
  have h₁ := h.padded (max k.length l.length) i q hq hh
  have hlt : i < (l.padded (max k.length l.length)).length := by
    have : i < k.length := (List.getElem?_eq_some_iff.1 (h i q hq hh)).1
    simp only [Column.padded, List.length_append, List.length_replicate]
    omega
  simp [Column.or, List.getElem?_zipWith, h₁, List.getElem?_eq_getElem hlt]

theorem or_right (h : Covers places l holds) : Covers places (k.or l) holds := by
  intro i q hq hh
  have h₁ := h.padded (max k.length l.length) i q hq hh
  have hlt : i < (k.padded (max k.length l.length)).length := by
    have : i < l.length := (List.getElem?_eq_some_iff.1 (h i q hq hh)).1
    simp only [Column.padded, List.length_append, List.length_replicate]
    omega
  simp [Column.or, List.getElem?_zipWith, h₁, List.getElem?_eq_getElem hlt]

theorem restrict {f : Place → Bool} (h : Covers places k holds) :
    Covers places (k.restrict places f) (fun q => holds q ∧ f q = true) := by
  intro i q hq hh
  simp [Column.restrict, List.getElem?_zipWith, hq, h i q hq hh.1, hh.2]

theorem behindOne (hl : Linked places) (set : CharSet) (h : Covers places k holds) :
    Covers places (k.behindOne places set) (fun q => ∃ r, q.next? set = some r ∧ holds r) := by
  rintro i q hq ⟨r, hr, hh⟩
  have hnext : places[i + 1]? = some r := by
    unfold Place.next? at hr
    split at hr
    · rename_i c rest ha
      split at hr
      · cases hr
        exact hl i q c rest hq ha
      · cases hr
    · cases hr
  have hk := h (i + 1) r hnext hh
  simp [Column.behindOne, Column.restrict, List.getElem?_zipWith, hq, hr, hk]

end Covers

/-! ## 4. Runs and literals -/

/-- Whether some characters of a set lead from one place to another. -/
inductive Passes (set : CharSet) : Place → Place → Prop where
  | here (p : Place) : Passes set p p
  | next {p q r : Place} : p.next? set = some q → Passes set q r → Passes set p r

theorem passes_of_mem_stops (set : CharSet) : ∀ (text : List Char) (p r : Place)
    (found : List Place), p.after = text → r ∈ p.stops set text found →
    r ∈ found ∨ Passes set p r
  | [], p, r, found, _, hr => by
    simp only [Place.stops, List.mem_cons] at hr
    rcases hr with rfl | hr
    · exact .inr (.here r)
    · exact .inl hr
  | c :: rest, p, r, found, ha, hr => by
    simp only [Place.stops] at hr
    split at hr
    · rename_i hc
      rcases passes_of_mem_stops set rest (p.pass c rest) r (p :: found) rfl hr with h | h
      · rcases List.mem_cons.1 h with rfl | h
        · exact .inr (.here r)
        · exact .inl h
      · exact .inr (.next (by simp [Place.next?, ha, hc]) h)
    · rcases List.mem_cons.1 hr with rfl | hr
      · exact .inr (.here r)
      · exact .inl hr

/-- What is worked out for one place from the answers for the later ones. -/
theorem getElem?_behindAny (set : CharSet) : ∀ (places : List Place) (k : Column) (i : Nat)
    (q : Place) (yes : Bool), places[i]? = some q → k[i]? = some yes →
    (k.behindAny places set)[i]? =
      some (yes || ((q.next? set).isSome && ((k.behindAny places set)[i + 1]?).getD false))
  | [], _, _, _, _, hq, _ => by simp at hq
  | _ :: _, [], _, _, _, _, hk => by simp at hk
  | p :: places, b :: k, 0, q, yes, hq, hk => by
    simp only [List.getElem?_cons_zero, Option.some.injEq] at hq hk
    subst hq hk
    simp [Column.behindAny, List.head?_eq_getElem?]
  | p :: places, b :: k, i + 1, q, yes, hq, hk => by
    simp only [List.getElem?_cons_succ] at hq hk
    have ih := getElem?_behindAny set places k i q yes hq hk
    simpa [Column.behindAny] using ih

theorem length_behindAny (set : CharSet) : ∀ (places : List Place) (k : Column),
    (k.behindAny places set).length ≤ k.length
  | [], k => by simp [Column.behindAny]
  | _ :: _, [] => by simp [Column.behindAny]
  | p :: places, b :: k => by
    have ih := length_behindAny set places k
    simp only [Column.behindAny, List.zip_cons_cons, List.foldr_cons, List.length_cons] at ih ⊢
    omega

theorem Linked.next {places : List Place} (hl : Linked places) {set : CharSet} {i : Nat}
    {q r : Place} (hq : places[i]? = some q) (hr : q.next? set = some r) :
    places[i + 1]? = some r := by
  unfold Place.next? at hr
  split at hr
  · rename_i c rest ha
    split at hr
    · cases hr
      exact hl i q c rest hq ha
    · cases hr
  · cases hr

theorem Covers.behindAny {places : List Place} {k : Column} {holds : Place → Prop}
    (hl : Linked places) (set : CharSet) (h : Covers places k holds) :
    Covers places (k.behindAny places set) (fun q => ∃ r, Passes set q r ∧ holds r) := by
  rintro i q hq ⟨r, hp, hh⟩
  induction hp generalizing i with
  | here r => rw [getElem?_behindAny set _ _ _ r true hq (h i r hq hh), Bool.true_or]
  | @next p q' r hn _ ih =>
    have hlater := ih (i + 1) (hl.next hq hn) hh
    have hlt : i < k.length := by
      have h₁ := (List.getElem?_eq_some_iff.1 hlater).1
      have h₂ := length_behindAny set places k
      omega
    rw [getElem?_behindAny set _ _ _ p k[i] hq (by simp [hlt]), hlater]
    simp [hn]

theorem Linked.skip {places : List Place} (hl : Linked places) (caseless : Bool) :
    ∀ (letters : List Char) (i : Nat) (q r : Place), places[i]? = some q →
      q.skip? caseless letters = some r → places[i + letters.length]? = some r
  | [], i, q, r, hq, hr => by
    simp only [Place.skip?, Option.some.injEq] at hr
    simpa [hr] using hq
  | l :: letters, i, q, r, hq, hr => by
    unfold Place.skip? at hr
    split at hr
    · rename_i c rest ha
      split at hr
      · have := hl.skip caseless letters (i + 1) _ r (hl i q c rest hq ha) hr
        rw [List.length_cons, ← this]
        congr 1
        omega
      · cases hr
    · cases hr

/-! ## 5. Whole patterns -/

/-- The column for a pattern covers the places from which some way leads to a covered one. -/
theorem Covers.column {places : List Place} (hl : Linked places) : ∀ (p : Pattern) {k : Column}
    {holds : Place → Prop}, Covers places k holds →
    Covers places (p.column places k)
      (fun q => ∃ v w, v.place = q ∧ w ∈ p.ways v ∧ holds w.place)
  | literal caseless text, k, holds, h => by
    rintro i q hq ⟨v, w, hv, hw, hh⟩
    subst hv
    simp only [ways, Option.mem_toList, Option.map_eq_some_iff] at hw
    obtain ⟨r, hr, rfl⟩ := hw
    have hk := h _ r (hl.skip caseless text i v.place r hq hr) hh
    rw [Nat.add_comm] at hk
    simp [Pattern.column, Column.restrict, List.getElem?_zipWith, hq, hr, hk]
  | run set .one, k, holds, h => by
    refine (h.behindOne hl set).mono ?_
    rintro q ⟨v, w, rfl, hw, hh⟩
    simp only [ways, Place.reach, List.mem_map, Option.mem_toList] at hw
    obtain ⟨r, hr, rfl⟩ := hw
    exact ⟨r, hr, hh⟩
  | run set .atMostOne, k, holds, h => by
    rintro i q hq ⟨v, w, hv, hw, hh⟩
    subst hv
    simp only [ways, Place.reach, List.mem_map, List.mem_append, Option.mem_toList,
      List.mem_singleton] at hw
    obtain ⟨r, hr | rfl, rfl⟩ := hw
    · exact (h.behindOne hl set).or_left i v.place hq ⟨r, hr, hh⟩
    · exact h.or_right i v.place hq hh
  | run set .any, k, holds, h => by
    refine (h.behindAny hl set).mono ?_
    rintro q ⟨v, w, rfl, hw, hh⟩
    simp only [ways, Place.reach, List.mem_map] at hw
    obtain ⟨r, hr, rfl⟩ := hw
    exact ⟨r, (passes_of_mem_stops set _ _ r [] rfl hr).resolve_left (by simp), hh⟩
  | run set .atLeastOne, k, holds, h => by
    refine ((h.behindAny hl set).behindOne hl set).mono ?_
    rintro q ⟨v, w, rfl, hw, hh⟩
    simp only [ways, Place.reach, List.mem_map] at hw
    obtain ⟨r, hr, rfl⟩ := hw
    split at hr
    · rename_i s hs
      exact ⟨s, hs, r, (passes_of_mem_stops set _ _ r [] rfl hr).resolve_left (by simp), hh⟩
    · simp at hr
  | anchor a, k, holds, h => by
    refine h.restrict.mono ?_
    rintro q ⟨v, w, rfl, hw, hh⟩
    simp only [ways] at hw
    split at hw
    · rename_i ha
      rw [List.mem_singleton.1 hw] at hh
      exact ⟨hh, ha⟩
    · simp at hw
  | seq p q, k, holds, h => by
    refine (Covers.column hl p (Covers.column hl q h)).mono ?_
    rintro _ ⟨v, w, rfl, hw, hh⟩
    simp only [ways, List.mem_flatMap] at hw
    obtain ⟨u, hu, hw⟩ := hw
    exact ⟨v, u, rfl, hu, u, w, rfl, hw, hh⟩
  | either p q, k, holds, h => by
    rintro i x hx ⟨v, w, hv, hw, hh⟩
    simp only [ways, List.mem_append] at hw
    rcases hw with hw | hw
    · exact (Covers.column hl p h).or_left i x hx ⟨v, w, hv, hw, hh⟩
    · exact (Covers.column hl q h).or_right i x hx ⟨v, w, hv, hw, hh⟩
  | group index p, k, holds, h => by
    refine (Covers.column hl p h).mono ?_
    rintro _ ⟨v, w, rfl, hw, hh⟩
    simp only [ways, List.mem_map] at hw
    obtain ⟨u, hu, rfl⟩ := hw
    exact ⟨v, u, rfl, hu, hh⟩
  | foreign, k, holds, h => by
    rintro i q hq ⟨v, w, hv, hw, hh⟩
    simp [ways] at hw

/-! ## 6. No match is lost -/

/-- Places where no match begins can be left out. -/
theorem matchesAlong_filter {p : Pattern} : ∀ (l : List (Place × Bool)) (ended : Option Nat),
    (∀ q ∈ l, q.2 = false → p.matchAt? q.1 = none) →
    p.matchesAlong ended ((l.filter Prod.snd).map Prod.fst) =
      p.matchesAlong ended (l.map Prod.fst)
  | [], _, _ => rfl
  | (q, true) :: l, ended, h => by
    have ih := fun ended =>
      matchesAlong_filter l ended (fun q hq => h q (List.mem_cons_of_mem _ hq))
    simp only [List.filter_cons_of_pos, List.map_cons, matchesAlong, ih]
  | (q, false) :: l, ended, h => by
    have ih := matchesAlong_filter l ended (fun q hq => h q (List.mem_cons_of_mem _ hq))
    have hq : p.matchAt? q = none := h (q, false) List.mem_cons_self rfl
    simp [matchesAlong, hq, ih]

theorem matchesOnto_eq {p : Pattern} : ∀ (places : List Place) (found : List Match)
    (ended : Option Nat),
    p.matchesOnto found ended places = (p.matchesAlong ended places).reverse ++ found
  | [], _, _ => rfl
  | here :: later, found, ended => by
    simp only [matchesOnto, matchesAlong]
    by_cases hended : ended.any (here.offset < ·) = true
    · simp only [hended, if_true]
      exact matchesOnto_eq later found ended
    · simp only [hended]
      cases p.matchAt? here with
      | none => exact matchesOnto_eq later found ended
      | some m =>
        by_cases htakes : here.offset < m.stop.offset
        · simp [htakes, matchesOnto_eq later]
        · by_cases hsame : (ended == some here.offset) = true
          · simpa [htakes, hsame] using matchesOnto_eq later found ended
          · simp [htakes, hsame, matchesOnto_eq later]

/-- The matches that are found are all matches. -/
theorem search_eq (p : Pattern) (text : String) : p.search text = p.allMatches text := by
  have hl := linked_onwards _ (Place.start text) rfl
  rw [search, matchesOnto_eq, List.append_nil, List.reverse_reverse, allMatches, starts]
  split
  · rfl
  · generalize (Place.start text).onwards = places at hl ⊢
    have hall : Covers places (places.map (fun _ => true)) (fun _ => True) :=
      fun i q hq _ => by rw [List.getElem?_map, hq]; rfl
    have hc := (Covers.column hl p hall).padded places.length
    rw [matchesAlong_filter, List.map_fst_zip (by simp [Column.padded]; omega)]
    intro q hq hno
    obtain ⟨i, hi⟩ := List.getElem?_of_mem hq
    obtain ⟨hq₁, hq₂⟩ := List.getElem?_zip_eq_some.1 hi
    rw [matchAt?_eq_none_iff]
    refine List.eq_nil_iff_forall_not_mem.2 (fun w hw => ?_)
    have := hc i q.1 hq₁ ⟨⟨q.1, []⟩, w, rfl, hw, trivial⟩
    rw [hq₂, hno] at this
    simp at this

end KeywordGrammar.Pattern
