/-
# What the rule for arbitrary terms finds

A term need not be a word.  It can have points and blanks inside, or begin and end with one, and then a
word boundary may stand anywhere in it.  So two terms can stand at one place and both end on a
boundary, an occurrence of a term can run across the front of another, and which of them is reported
depends on the order of the branches and on what was reported before.

Three things are left of the simple picture that words have (`rule_finds_terms`):

* a match is between two boundaries and is alike one of the terms, the first in increasing order
  of those that stand at its place and end on a boundary;
* the matches take some text each and come one behind the other;
* an occurrence between two boundaries may be missed, but only because a reported match runs across
  its front.

All three are about single places first (`matchAt?_wholeWord_iff`); the general facts about successive
matches carry them over to a search.
-/
import KeywordGrammar.Proofs.Ownership
import KeywordGrammar.Proofs.RuleSizes
import KeywordGrammar.Proofs.WholeWords

namespace KeywordGrammar

open Unicode

/-! ## 1. Terms at a place -/

/-- Whether a term stands at a place up to case and ends on a word boundary; `slice` is what stands
there, and `q` the place behind it. -/
structure Place.Bears (p : Place) (term : String) (slice : List Char) (q : Place) : Prop where
  leads : p.Leads slice q
  same : slice.map fold = term.toList.map fold
  boundary : q.isBoundary = true

theorem Place.endOf?_iff_bears {p q : Place} {term : String} :
    p.endOf? term.toList = some q ↔ ∃ slice, p.Bears term slice q := by
  rw [endOf?_eq_some_iff]
  constructor
  · rintro ⟨hq, slice, hleads, hsame⟩
    exact ⟨slice, hleads, hsame, hq⟩
  · rintro ⟨slice, h⟩
    exact ⟨h.boundary, slice, h.leads, h.same⟩

/-- A term that stands at a place ends behind it, unless it is the empty term. -/
theorem Place.Bears.offset_lt {p q : Place} {term : String} {slice : List Char}
    (h : p.Bears term slice q) (hterm : term ≠ "") : p.offset < q.offset := by
  refine h.leads.offset_lt_iff.mpr ?_
  rintro rfl
  have hnil : term.toList = [] := List.map_eq_nil_iff.mp h.same.symm
  exact hterm (String.toList_eq_nil_iff.mp hnil)

/-- The first answer in a list is that for the first member that has one. -/
theorem findSome?_eq_some_iff_isFirst {β : Type} {f : String → Option β} {names : List String} {b : β} :
    names.findSome? f = some b ↔
      ∃ name, IsFirst names (fun n => ∃ b, f n = some b) name ∧ f name = some b := by
  rw [List.findSome?_eq_some_iff]
  constructor
  · rintro ⟨above, name, below, heq, hname, habove⟩
    refine ⟨name, ⟨above, below, heq, ⟨b, hname⟩, ?_⟩, hname⟩
    rintro n hn ⟨b', hb'⟩
    rw [habove n hn] at hb'
    cases hb'
  · rintro ⟨name, ⟨above, below, heq, -, habove⟩, hname⟩
    refine ⟨above, name, below, heq, hname, fun n hn => ?_⟩
    cases hf : f n with
    | none => rfl
    | some b' => exact absurd ⟨b', hf⟩ (habove n hn)

/-! ## 2. The match of a place -/

/-- Whether `t` is the first of some terms that stand at a place. -/
def Place.BearsFirst (p : Place) (terms : List String) (t : String) : Prop :=
  IsFirst terms (fun u => ∃ slice q, p.Bears u slice q) t

namespace Pattern

variable {terms : List String}

/-- **The match of a place is the first term that stands there, if it is a boundary.** -/
theorem matchAt?_wholeWord_iff (hne : terms ≠ []) {p : Place} {m : Match} :
    (wholeWord terms).matchAt? p = some m ↔ p.isBoundary = true ∧ ∃ t slice q,
      p.BearsFirst terms t ∧ p.Bears t slice q ∧ m = ⟨p, q, [⟨1, p, q⟩]⟩ := by
  have hbears : ∀ u : String, (∃ q, p.endOf? u.toList = some q) ↔ ∃ slice q, p.Bears u slice q := by
    intro u
    simp only [Place.endOf?_iff_bears]
    exact exists_comm
  rw [matchAt?_wholeWord hne]
  split
  · rename_i hp
    simp only [Option.map_eq_some_iff, findSome?_eq_some_iff_isFirst, Place.BearsFirst, hp, true_and,
      IsFirst.congr hbears]
    constructor
    · rintro ⟨q, ⟨t, hfirst, hq⟩, rfl⟩
      obtain ⟨slice, hslice⟩ := Place.endOf?_iff_bears.mp hq
      exact ⟨t, slice, q, hfirst, hslice, rfl⟩
    · rintro ⟨t, slice, q, hfirst, hslice, rfl⟩
      exact ⟨q, ⟨t, hfirst, Place.endOf?_iff_bears.mpr ⟨slice, hslice⟩⟩, rfl⟩
  · rename_i hp
    simp [hp]

/-- Where some term stands between two boundaries, some match begins. -/
theorem exists_matchAt?_of_bears {t : String} (hmem : t ∈ terms) {p q : Place} {slice : List Char}
    (hp : p.isBoundary = true) (h : p.Bears t slice q) :
    ∃ m, (wholeWord terms).matchAt? p = some m := by
  obtain ⟨u, hfirst⟩ : ∃ u, p.BearsFirst terms u := IsFirst.exists_of_mem hmem ⟨slice, q, h⟩
  obtain ⟨-, -, -, ⟨s, r, hu⟩, -⟩ := id hfirst
  exact ⟨_, (matchAt?_wholeWord_iff (List.ne_nil_of_mem hmem)).mpr ⟨hp, u, s, r, hfirst, hu, rfl⟩⟩

/-! ## 3. Successive matches -/

/-- Whether some matches are those of terms in a text, as a search reports them. -/
structure FindsTerms (terms : List String) (text : String) (found : List Match) : Prop where
  /-- A match is a stretch of the text between two boundaries, and its group is the whole of it. -/
  whole : ∀ m ∈ found, m.start.text = text.toList ∧ m.start.isBoundary = true ∧
    m.stop.isBoundary = true ∧ m.span? 1 = m.span? 0
  /-- It is alike the first of the terms that stand at its place. -/
  first : ∀ m ∈ found, ∃ t slice, m.start.BearsFirst terms t ∧ m.start.Bears t slice m.stop
  /-- It takes some text. -/
  takes : ∀ m ∈ found, m.start.offset < m.stop.offset
  /-- It ends in front of the next one. -/
  apart : found.Pairwise (fun m n => m.stop.offset ≤ n.start.offset)
  /-- Where a term stands between two boundaries, some match runs across its front. -/
  covers : ∀ t ∈ terms, ∀ (p : Place) slice q, p.text = text.toList → p.isBoundary = true →
    p.Bears t slice q → ∃ m ∈ found, m.start.offset ≤ p.offset ∧ p.offset < m.stop.offset

/-- **What a search for non-empty terms reports.** -/
theorem search_finds_terms (hne : terms ≠ []) (hterms : "" ∉ terms) (text : String) :
    FindsTerms terms text ((wholeWord terms).search text) := by
  have htakes : ∀ {m : Match}, (wholeWord terms).matchAt? m.start = some m →
      m.start.offset < m.stop.offset := by
    intro m hm
    obtain ⟨-, t, slice, q, hfirst, hslice, heq⟩ := (matchAt?_wholeWord_iff hne).mp hm
    have hq : m.stop = q := by rw [heq]
    rw [hq]
    exact hslice.offset_lt (fun ht => hterms (ht ▸ hfirst.mem))
  refine ⟨fun m hm => ?_, fun m hm => ?_, fun m hm => ?_, pairwise_search _ text, ?_⟩
  · obtain ⟨htext, -, hmatch⟩ := mem_search hm
    obtain ⟨hp, t, slice, q, -, hslice, heq⟩ := (matchAt?_wholeWord_iff hne).mp hmatch
    have hq : m.stop = q := by rw [heq]
    refine ⟨htext, hp, hq ▸ hslice.boundary, ?_⟩
    rw [heq]
    rfl
  · obtain ⟨-, -, hmatch⟩ := mem_search hm
    obtain ⟨-, t, slice, q, hfirst, hslice, heq⟩ := (matchAt?_wholeWord_iff hne).mp hmatch
    have hq : m.stop = q := by rw [heq]
    exact ⟨t, slice, hfirst, hq ▸ hslice⟩
  · obtain ⟨-, -, hmatch⟩ := mem_search hm
    exact htakes hmatch
  · intro t ht p slice q htext hp hslice
    obtain ⟨m, hm⟩ := exists_matchAt?_of_bears ht hp hslice
    have hstart := start_of_matchAt? hm
    subst hstart
    exact covered_by_search htext hm (htakes hm)

end Pattern

/-! ## 4. The rule of a category -/

/-- **What the rule of a category finds.**  The category owns some terms, none of them empty, and of any
characters.  Then its rule is refused for its size, or in every text each of its successive matches is
between two word boundaries and alike the first owned term that stands at its place and ends on a
boundary; the matches do not overlap; and no owned term stands between two boundaries without a
match that runs across its front. -/
theorem rule_finds_terms {c : Category} (hne : c.isEmpty = false) (hterms : "" ∉ c.terms) :
    (c.fits = false ∧ c.rule? = .error ⟨c.name, .tooLarge⟩) ∨
      ∃ rule p, c.rule? = .ok (some rule) ∧ rule.compile = .ok p ∧
        ∀ text, Pattern.FindsTerms c.terms.toList text (p.search text) := by
  have hrule := Category.rule?_eq c
  have hcompile := Category.compile_rule hne
  rw [hne] at hrule
  cases hfits : c.fits with
  | false =>
    rw [hfits] at hrule
    exact .inl ⟨rfl, hrule⟩
  | true =>
    rw [hfits] at hrule hcompile
    refine .inr ⟨c.rule, _, hrule, hcompile, fun text => ?_⟩
    exact Pattern.search_finds_terms (Category.isEmpty_eq_false_iff.mp hne) hterms text

/-- Terms with points and blanks, two of which overlap a third one where they stand together. -/
def commands : Category :=
  .ofTerms "command" ⟨["action", "action.start", "start now"], by decide⟩

/-- `action.start` stands at the front of the text, and the match of `action` runs across that place. -/
theorem rule_finds_terms_commands : commands.isEmpty = false ∧ "" ∉ commands.terms ∧
    ∃ rule p, commands.rule? = .ok (some rule) ∧ rule.compile = .ok p ∧
      Pattern.FindsTerms ["action", "action.start", "start now"] "Action.Start now"
        (p.search "Action.Start now") ∧
      (p.search "Action.Start now").map (fun m => m.span? 0) = [some (0, 6), some (7, 16)] := by
  have hempty : commands.isEmpty = false := by decide
  have hterms : "" ∉ commands.terms := by decide
  have hfits : commands.fits = true := by
    rw [Category.fits, Pattern.fitsLimit_alternation (by decide)]
    decide +kernel
  have hspans : ((Pattern.wholeWord ["action", "action.start", "start now"]).search
      "Action.Start now").map (fun m => m.span? 0) = [some (0, 6), some (7, 16)] := by
    decide +kernel
  have hrule := Category.rule?_eq commands
  have hcompile := Category.compile_rule hempty
  rw [hempty, hfits] at hrule
  rw [hfits] at hcompile
  rcases rule_finds_terms hempty hterms with ⟨hlarge, -⟩ | ⟨rule, p, hok, hp, hfinds⟩
  · rw [hfits] at hlarge
    cases hlarge
  · rw [hrule] at hok
    cases hok
    refine ⟨hempty, hterms, commands.rule, p, hrule, hp, hfinds _, ?_⟩
    rw [hcompile] at hp
    cases hp
    exact hspans

end KeywordGrammar
