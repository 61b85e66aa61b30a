/-
# What a rule finds in the text of its own term

The rule of a category is tried on the text of a term that the category owns.  One might expect that
it finds the whole term; but its branches are the owned terms in increasing order, and the first one
that stands at the front of the text with a word boundary behind it is taken.  A term with a point in
it has word boundaries inside, so `action` is found in the text `action.start` if the category owns
both (`shorter_term_is_found_first`).

What holds of every term that begins and ends with a word character is that the rule finds something
at its front, namely the first owned term that stands there (`first_match_of_owned_term`).  The term
itself is one that does, so it is found whole unless a smaller term of the same category is in front
of it.
-/
import KeywordGrammar.Proofs.Ownership
import KeywordGrammar.Proofs.RuleLists
import KeywordGrammar.Proofs.WholeWords

namespace KeywordGrammar

open Unicode

/-! ## 1. Terms with word characters at both ends -/

/-- Whether a term begins and ends with a word character. -/
structure HasWordEdges (t : String) : Prop where
  first : t.toList.head?.any isWord = true
  last : t.toList.getLast?.any isWord = true

theorem hasWordEdges_iff {t : String} : HasWordEdges t ↔
    (t.toList.head?.any isWord && t.toList.getLast?.any isWord) = true := by
  rw [Bool.and_eq_true]
  exact ⟨fun h => ⟨h.first, h.last⟩, fun h => ⟨h.1, h.2⟩⟩

instance (t : String) : Decidable (HasWordEdges t) := decidable_of_iff _ hasWordEdges_iff.symm

/-- Whether a term stands at the front of a text, up to case, with a word boundary behind it; `s` is
what stands there. -/
structure StandsInFront (text term : String) (s : List Char) : Prop where
  front : s <+: text.toList
  same : s.map fold = term.toList.map fold
  boundary : s.getLast?.any isWord ≠ (text.toList.drop s.length).head?.any isWord

/-- A term with word edges stands in front of its own text. -/
theorem HasWordEdges.standsInFront {t : String} (h : HasWordEdges t) :
    StandsInFront t t t.toList := by
  refine ⟨List.prefix_refl _, rfl, ?_⟩
  rw [h.last, List.drop_length]
  simp

/-! ## 2. At the front of a text -/

/-- Where a term ends that is found at the front of a text. -/
theorem Place.endOf?_start_iff {text term : String} {q : Place} :
    (Place.start text).endOf? term.toList = some q ↔
      ∃ s, StandsInFront text term s ∧ (Place.start text).Leads s q := by
  -- what is behind the place is the text without the letters that lead there
  have hboundary : ∀ {s}, (Place.start text).Leads s q → (q.isBoundary = true ↔
      s.getLast?.any isWord ≠ (text.toList.drop s.length).head?.any isWord) := by
    intro s hs
    have hbefore : q.before.head? = s.getLast? := by
      rw [hs.before, ← List.head?_reverse]
      simp [Place.start]
    have hafter : q.after = text.toList.drop s.length := by
      have htext : text.toList = s ++ q.after := hs.after
      rw [htext, List.drop_left]
    rw [Place.isBoundary_iff, hbefore, hafter]
  rw [Place.endOf?_eq_some_iff]
  constructor
  · rintro ⟨hq, s, hs, hsame⟩
    exact ⟨s, ⟨⟨q.after, hs.after.symm⟩, hsame, (hboundary hs).mp hq⟩, hs⟩
  · rintro ⟨s, hfront, hs⟩
    exact ⟨(hboundary hs).mpr hfront.boundary, s, hs, hfront.same⟩

/-- A term that stands in front of a text ends somewhere in it. -/
theorem StandsInFront.leads {text term : String} {s : List Char} (h : StandsInFront text term s) :
    ∃ q, (Place.start text).Leads s q := by
  obtain ⟨rest, hrest⟩ := h.front
  refine ⟨⟨s.reverse, rest, byteLength s.reverse, rfl⟩, ?_, hrest.symm⟩
  simp [Place.start]

namespace Pattern

/-- The match of the front of a text is the first that is reported. -/
theorem head?_search {p : Pattern} {text : String} {m : Match} (hne : text.toList ≠ [])
    (h : p.matchAt? (Place.start text) = some m) : (p.search text).head? = some m := by
  obtain ⟨c, rest, htext⟩ := List.exists_cons_of_ne_nil hne
  have hstart : (Place.start text).after = c :: rest := htext
  rw [search_eq, allMatches, Place.onwards_of_cons hstart, matchesAlong]
  simp only [Option.any_none, Bool.false_eq_true, if_false, h]
  split
  · rfl
  · rfl

/-- At the front of a text with word edges, the first of some terms is found that stands there. -/
theorem matchAt?_start {terms : List String} {text : String} (htext : HasWordEdges text)
    (hmem : text ∈ terms) :
    ∃ m u s, (wholeWord terms).matchAt? (Place.start text) = some m ∧
      IsFirst terms (fun v => ∃ s, StandsInFront text v s) u ∧ StandsInFront text u s ∧
      m.span? 0 = some (0, byteLength s) := by
  have hp : (Place.start text).isBoundary = true := by
    have hafter : (Place.start text).after.head?.any isWord = true := htext.first
    rw [Place.isBoundary_iff, hafter]
    simp [Place.start]
  have hends : ∀ {v s}, StandsInFront text v s →
      ∃ q, (Place.start text).endOf? v.toList = some q := by
    intro v s hs
    obtain ⟨q, hq⟩ := hs.leads
    exact ⟨q, Place.endOf?_start_iff.mpr ⟨s, hs, hq⟩⟩
  -- the text itself stands at its front, so some term is found
  obtain ⟨q, hq⟩ : ∃ q, terms.findSome? (fun v => (Place.start text).endOf? v.toList) = some q := by
    obtain ⟨q₀, hq₀⟩ := hends htext.standsInFront
    cases hfirst : terms.findSome? (fun v => (Place.start text).endOf? v.toList) with
    | some q => exact ⟨q, rfl⟩
    | none =>
      have := List.findSome?_eq_none_iff.mp hfirst text hmem
      rw [hq₀] at this
      cases this
  obtain ⟨above, u, below, hterms, hu, habove⟩ := List.findSome?_eq_some_iff.mp hq
  obtain ⟨s, hs, hleads⟩ := Place.endOf?_start_iff.mp hu
  refine ⟨⟨Place.start text, q, [⟨1, Place.start text, q⟩]⟩, u, s, ?_, ?_, hs, ?_⟩
  · rw [matchAt?_wholeWord (List.ne_nil_of_mem hmem), if_pos hp, hq]
    rfl
  · refine ⟨above, below, hterms, ⟨s, hs⟩, ?_⟩
    rintro v hv ⟨s', hs'⟩
    obtain ⟨r, hr⟩ := hends hs'
    rw [habove v hv] at hr
    cases hr
  · have hoffset : q.offset = byteLength s := by
      rw [hleads.offset_eq]
      exact Nat.zero_add _
    rw [Match.span?, if_pos rfl, hoffset]
    rfl

end Pattern

/-! ## 3. The rule of a category -/

/-- Whole letters of a text that fold to the text are the text. -/
theorem StandsInFront.eq_toList {t : String} {s : List Char} (h : StandsInFront t t s) :
    s = t.toList := by
  have hlen := congrArg List.length h.same
  rw [List.length_map, List.length_map] at hlen
  exact h.front.eq_of_length hlen

/-- If no smaller member of an increasing list has a property that `t` has, then `t` is the first. -/
theorem isFirst_of_forall_lt {names : List String} {holds : String → Prop} {t : String}
    (hinc : names.Pairwise (· < ·)) (hmem : t ∈ names) (ht : holds t)
    (hlt : ∀ v ∈ names, v < t → ¬ holds v) : IsFirst names holds t := by
  obtain ⟨above, below, rfl⟩ := List.append_of_mem hmem
  refine ⟨above, below, rfl, ht, fun v hv => ?_⟩
  have hvt : v < t := (List.pairwise_append.mp hinc).2.2 v hv t List.mem_cons_self
  exact hlt v (List.mem_append_left _ hv) hvt

/-- **What a rule finds first in the text of an owned term.**  All candidates begin and end with a word
character.  Then the rule of a category, unless it is too large, finds in the text of a term that the
category owns a match at the front; it ends behind the first of the owned terms, in increasing order,
that stands in front of the text.  So it is the whole term if no smaller owned term stands there. -/
theorem first_match_of_owned_term {cands : Candidates} {order : Precedence}
    {categories : List Category} (hresolve : resolve cands order = .ok categories)
    (hedges : ∀ n, ∀ t ∈ cands.terms n, HasWordEdges t) {c : Category} (hc : c ∈ categories)
    {t : String} (ht : t ∈ c.terms) :
    (c.fits = false ∧ c.rule? = .error ⟨c.name, .tooLarge⟩) ∨
    ∃ rule p m u s, c.rule? = .ok (some rule) ∧ rule.compile = .ok p ∧
      (p.search t).head? = some m ∧
      IsFirst c.terms.toList (fun v => ∃ s, StandsInFront t v s) u ∧ StandsInFront t u s ∧
      m.span? 0 = some (0, byteLength s) ∧
      ((∀ v ∈ c.terms, v < t → ∀ s, ¬ StandsInFront t v s) →
        m.span? 0 = some (0, t.utf8ByteSize)) := by
  have hempty : c.isEmpty = false := Category.isEmpty_eq_false_iff.mpr (List.ne_nil_of_mem ht)
  have hrule := Category.rule?_eq c
  have hcompile := Category.compile_rule hempty
  rw [hempty] at hrule
  cases hfits : c.fits with
  | false =>
    rw [hfits] at hrule
    exact .inl ⟨rfl, hrule⟩
  | true =>
    rw [hfits] at hrule hcompile
    have htext : HasWordEdges t := by
      obtain ⟨-, -, -, hlists, -⟩ := (mem_terms_resolve_iff hresolve hc t).mp ht
      exact hedges _ t hlists
    obtain ⟨m, u, s, hm, hfirst, hs, hspan⟩ := Pattern.matchAt?_start htext ht
    have hne : t.toList ≠ [] := by
      intro hnil
      have := htext.first
      rw [hnil] at this
      cases this
    refine .inr ⟨c.rule, _, m, u, s, hrule, hcompile, Pattern.head?_search hne hm, hfirst, hs,
      hspan, fun hlt => ?_⟩
    have hself : IsFirst c.terms.toList (fun v => ∃ s, StandsInFront t v s) t :=
      isFirst_of_forall_lt c.terms.increasing ht ⟨_, htext.standsInFront⟩
        (fun v hv hvt hstands => hstands.elim (hlt v hv hvt))
    have hut : u = t := hfirst.unique hself
    subst hut
    rw [hspan, hs.eq_toList, byteLength_eq, String.ofList_toList]

/-- A number that two categories list, and two longer terms that begin with it. -/
def pointed : Candidates where
  entries := [("level", ⟨["7"], by decide⟩), ("version", ⟨["7", "7.1", "7.10"], by decide⟩)]
  increasing := by decide

theorem hasWordEdges_of_mem_pointed : ∀ n, ∀ t ∈ pointed.terms n, HasWordEdges t := by
  have hentries : ∀ e ∈ pointed.entries, ∀ t ∈ e.2.toList, HasWordEdges t := by decide +kernel
  intro n t ht
  obtain ⟨s, hs, hts⟩ := Candidates.mem_terms_iff.mp ht
  exact hentries _ hs t hts

/-- What is left of the versions if levels are ranked above them. -/
def shadowedVersions : Category := ⟨"version", ⟨["7.1", "7.10"], by decide⟩, 3, by decide⟩

/-- Where the shorter number belongs to another category, the longer term is found whole: `7.1` stands
in front of `7.10`, but no word boundary is behind it. -/
theorem first_match_of_owned_term_pointed : ∃ categories rule p m,
    resolve pointed ⟨["level", "version"]⟩ = .ok categories ∧ shadowedVersions ∈ categories ∧
      shadowedVersions.rule? = .ok (some rule) ∧ rule.compile = .ok p ∧
      (p.search "7.10").head? = some m ∧ m.span? 0 = some (0, 4) := by
  have hranked : ∀ n ∈ pointed.names, n ∈ ["level", "version"] := by decide
  have hresolve : resolve pointed ⟨["level", "version"]⟩ =
      .ok (keepInOrder pointed ∅ ["level", "version"]) :=
    resolve_eq_ok_iff.mpr ⟨⟨by decide, hranked⟩, rfl⟩
  have hmem : shadowedVersions ∈ keepInOrder pointed ∅ ["level", "version"] := by decide +kernel
  have hfits : shadowedVersions.fits = true := by decide +kernel
  rcases first_match_of_owned_term hresolve hasWordEdges_of_mem_pointed hmem
    (show "7.10" ∈ shadowedVersions.terms by decide) with
    ⟨hlarge, -⟩ | ⟨rule, p, m, u, s, hrule, hcompile, hm, -, -, -, hwhole⟩
  · rw [hfits] at hlarge
    cases hlarge
  · refine ⟨_, rule, p, m, hresolve, hmem, hrule, hcompile, hm, hwhole ?_⟩
    intro v hv hlt s hs
    have hv' : v = "7.1" := by
      rcases List.mem_cons.mp hv with rfl | hv
      · rfl
      · rw [List.mem_singleton.mp hv] at hlt
        exact absurd hlt (String.lt_irrefl _)
    subst hv'
    have hlen : s.length = 3 := by
      have := congrArg List.length hs.same
      rwa [List.length_map] at this
    have hletters : s = ['7', '.', '1'] := by
      rw [List.prefix_iff_eq_take.mp hs.front, hlen]
      rfl
    have hboundary := hs.boundary
    rw [hletters] at hboundary
    exact hboundary (by decide +kernel)

/-- A shorter term of the same category is found instead: of `7.10` only `7` is. -/
theorem shorter_term_is_found_first : ∃ categories c rule p m,
    resolve pointed ⟨["version", "level"]⟩ = .ok categories ∧
      (∀ n, ∀ t ∈ pointed.terms n, HasWordEdges t) ∧ c ∈ categories ∧ "7.10" ∈ c.terms ∧
      c.rule? = .ok (some rule) ∧ rule.compile = .ok p ∧ (p.search "7.10").head? = some m ∧
      m.span? 0 = some (0, 1) ∧ "7.10".utf8ByteSize = 4 := by
  have hranked : ∀ n ∈ pointed.names, n ∈ ["version", "level"] := by decide
  have hresolve : resolve pointed ⟨["version", "level"]⟩ =
      .ok (keepInOrder pointed ∅ ["version", "level"]) :=
    resolve_eq_ok_iff.mpr ⟨⟨by decide, hranked⟩, rfl⟩
  have hmem : Category.ofTerms "version" (pointed.terms "version") ∈
      keepInOrder pointed ∅ ["version", "level"] := by decide +kernel
  have hrule := Category.rule?_eq (.ofTerms "version" (pointed.terms "version"))
  have hfits : (Category.ofTerms "version" (pointed.terms "version")).fits = true := by
    decide +kernel
  have hempty : (Category.ofTerms "version" (pointed.terms "version")).isEmpty = false := by
    decide +kernel
  have hcompile := Category.compile_rule hempty
  rw [hempty, hfits] at hrule
  rw [hfits] at hcompile
  have hspan : ((Pattern.wholeWord ["7", "7.1", "7.10"]).search "7.10").head?.bind (·.span? 0) =
      some (0, 1) := by decide +kernel
  obtain ⟨m, hm, hspan⟩ := Option.bind_eq_some_iff.mp hspan
  exact ⟨_, _, _, _, m, hresolve, hasWordEdges_of_mem_pointed, hmem, by decide, hrule, hcompile, hm,
    hspan, by decide +kernel⟩

end KeywordGrammar
