/-
# Candidates are canonical

There are several ways to a category: as a line or a hand-picked term, as a key, as a value with a mark
or without one.  A text is lowercased on each of them, behind the mark if one is taken off, so every
candidate is a lowercase form; and since a lowercase form does not change again (`Unicode.lower_lower`),
candidates may go the same way once more.  Handing them back under their own categories adds nothing,
and is by itself enough to gather them anew (`collect_handedBack`).
-/
import KeywordGrammar.Proofs.LowercaseForms
import KeywordGrammar.Proofs.Rearrangements

namespace KeywordGrammar

open Unicode

/-! ## 1. Lowercase forms on every way -/

theorem Source.Routes.lower_eq {s : Source} {c t : String} (h : s.Routes c t) : lower t = t := by
  cases h with
  | line _ => exact lower_lower _
  | key _ => exact lower_lower _
  | marked hm =>
    obtain ⟨e, -, v, -, -, rfl⟩ := hm
    exact lower_lower _
  | plain _ _ _ _ => exact lower_lower _

/-- **Whatever gets to a category is a lowercase form.** -/
theorem Contribution.Routes.lower_eq {s : Contribution} {c t : String} (h : s.Routes c t) :
    lower t = t := by
  cases h with
  | source hs => exact hs.lower_eq
  | extra _ => exact lower_lower _

namespace Candidates

variable {steps again : List Contribution}

theorem lower_of_mem_collect {c t : String} (h : t ∈ (collect steps).terms c) : lower t = t := by
  obtain ⟨s, -, hroutes⟩ := ((exact_collect steps).terms c t).mp h
  exact hroutes.lower_eq

/-! ## 2. Contributions that add nothing -/

/-- Whether a contribution names only categories that exist, and routes only terms to them that they
have. -/
structure HasAlready (cands : Candidates) (s : Contribution) : Prop where
  names : ∀ c ∈ s.categories, c ∈ cands.names
  terms : ∀ c t, s.Routes c t → t ∈ cands.terms c

theorem collect_append_of_hasAlready (h : ∀ s ∈ again, (collect steps).HasAlready s) :
    collect (steps ++ again) = collect steps := by
  have hexact := exact_collect steps
  have hboth := exact_collect (steps ++ again)
  refine ext_terms (fun c => ?_) (fun c t => ?_)
  · rw [hboth.names]
    constructor
    · rintro ⟨s, hs, hc⟩
      rcases List.mem_append.mp hs with hs | hs
      · exact (hexact.names c).mpr ⟨s, hs, hc⟩
      · exact (h s hs).names c hc
    · intro hc
      obtain ⟨s, hs, hc⟩ := (hexact.names c).mp hc
      exact ⟨s, List.mem_append_left again hs, hc⟩
  · rw [hboth.terms]
    constructor
    · rintro ⟨s, hs, hroutes⟩
      rcases List.mem_append.mp hs with hs | hs
      · exact (hexact.terms c t).mpr ⟨s, hs, hroutes⟩
      · exact (h s hs).terms c t hroutes
    · intro ht
      obtain ⟨s, hs, hroutes⟩ := (hexact.terms c t).mp ht
      exact ⟨s, List.mem_append_left again hs, hroutes⟩

/-- Terms of a category that are picked by hand for it once more are the same terms. -/
theorem routes_extra_of_mem {c c' t : String} {terms : List String}
    (h : ∀ t ∈ terms, t ∈ (collect steps).terms c) :
    (Contribution.extra c terms).Routes c' t ↔ c' = c ∧ t ∈ terms := by
  rw [Contribution.routes_extra_iff]
  refine and_congr_right fun _ => ?_
  constructor
  · rintro ⟨raw, hraw, rfl⟩
    rwa [lower_of_mem_collect (h raw hraw)]
  · exact fun ht => ⟨t, ht, lower_of_mem_collect (h t ht)⟩

theorem hasAlready_extra {c : String} {terms : List String} (hc : c ∈ (collect steps).names)
    (h : ∀ t ∈ terms, t ∈ (collect steps).terms c) : (collect steps).HasAlready (.extra c terms) := by
  constructor
  · intro c' hc'
    rwa [List.mem_singleton.mp hc']
  · intro c' t hroutes
    obtain ⟨rfl, ht⟩ := (routes_extra_of_mem h).mp hroutes
    exact h t ht

/-! ## 3. Handing candidates back -/

/-- All terms of all categories, picked by hand for the categories that have them. -/
def handedBack (cands : Candidates) : List Contribution :=
  cands.entries.map (fun e => .extra e.1 e.2.toList)

theorem forall_mem_entry {cands : Candidates} {e : String × TermSet} (he : e ∈ cands.entries) :
    ∀ t ∈ e.2.toList, t ∈ cands.terms e.1 :=
  fun _ ht => mem_terms_iff.mpr ⟨e.2, he, ht⟩

theorem hasAlready_of_mem_handedBack {s : Contribution} (h : s ∈ (collect steps).handedBack) :
    (collect steps).HasAlready s := by
  obtain ⟨e, he, rfl⟩ := List.mem_map.mp h
  exact hasAlready_extra (List.mem_map_of_mem he) (forall_mem_entry he)

/-- What is handed back is enough to gather the candidates anew. -/
theorem collect_handedBack (steps : List Contribution) :
    collect (collect steps).handedBack = collect steps := by
  have hexact := exact_collect (collect steps).handedBack
  refine ext_terms (fun c => ?_) (fun c t => ?_)
  · rw [hexact.names]
    constructor
    · rintro ⟨s, hs, hc⟩
      exact (hasAlready_of_mem_handedBack hs).names c hc
    · intro hc
      obtain ⟨e, he, rfl⟩ := List.mem_map.mp hc
      exact ⟨_, List.mem_map_of_mem he, List.mem_singleton_self _⟩
  · rw [hexact.terms]
    constructor
    · rintro ⟨s, hs, hroutes⟩
      exact (hasAlready_of_mem_handedBack hs).terms c t hroutes
    · intro ht
      obtain ⟨terms, he, ht⟩ := mem_terms_iff.mp ht
      exact ⟨_, List.mem_map_of_mem he, (routes_extra_of_mem (forall_mem_entry he)).mpr ⟨rfl, ht⟩⟩

/-- **Candidates are canonical.**  Each term that any contributions gather is its own lowercase form.  So
terms that are handed back to categories that have them, some or all of them, in any order and number,
leave the candidates as they are; and all of them, handed back to no others, make the same candidates. -/
theorem collect_is_canonical (steps : List Contribution) :
    (∀ c, ∀ t ∈ (collect steps).terms c, lower t = t) ∧
      (∀ again : List (String × List String),
        (∀ e ∈ again, e.1 ∈ (collect steps).names ∧ ∀ t ∈ e.2, t ∈ (collect steps).terms e.1) →
          collect (steps ++ again.map (fun e => .extra e.1 e.2)) = collect steps) ∧
      collect (steps ++ (collect steps).handedBack) = collect steps ∧
      collect (collect steps).handedBack = collect steps := by
  refine ⟨fun c t ht => lower_of_mem_collect ht, fun again h => ?_, ?_, collect_handedBack steps⟩
  · refine collect_append_of_hasAlready fun s hs => ?_
    obtain ⟨e, he, rfl⟩ := List.mem_map.mp hs
    exact hasAlready_extra (h e he).1 (h e he).2
  · exact collect_append_of_hasAlready fun s hs => hasAlready_of_mem_handedBack hs

/-- A sigma at the end of a word behind a mark, and a dotted capital I. -/
def capitalSteps : List Contribution :=
  [.source (.mapping "key" "value" [⟨"Road", ["~ΟΔΟΣ", "ΣΑΣ İ"]⟩])]

/-- Both values are lowercase, the one behind its mark, and may be handed back where they are. -/
theorem collect_is_canonical_capitals :
    "οδος" ∈ (collect capitalSteps).terms "key" ∧ lower "οδος" = "οδος" ∧
      "σας i̇" ∈ (collect capitalSteps).terms "value" ∧ lower "σας i̇" = "σας i̇" ∧
      collect (capitalSteps ++ [.extra "key" ["οδος", "οδος"]]) = collect capitalSteps := by
  have hexact := exact_collect capitalSteps
  have hmarks : Marks [⟨"Road", ["~ΟΔΟΣ", "ΣΑΣ İ"]⟩] "οδος" :=
    ⟨_, .head _, "~ΟΔΟΣ", .head _, by decide, by decide +kernel⟩
  have hkey : "οδος" ∈ (collect capitalSteps).terms "key" :=
    (hexact.terms _ _).mpr ⟨_, .head _, .source (.marked hmarks)⟩
  have hvalue : "σας i̇" ∈ (collect capitalSteps).terms "value" := by
    have hlower : lower "ΣΑΣ İ" = "σας i̇" := by decide +kernel
    rw [← hlower]
    refine (hexact.terms _ _).mpr ⟨_, .head _, .source (.plain (.head _) (.tail _ (.head _)) ?_ ?_)⟩
    · decide
    · unfold Marks
      decide +kernel
  have hname : "key" ∈ (collect capitalSteps).names := (hexact.names _).mpr ⟨_, .head _, .head _⟩
  obtain ⟨hlower, hagain, -, -⟩ := collect_is_canonical capitalSteps
  refine ⟨hkey, hlower _ _ hkey, hvalue, hlower _ _ hvalue, hagain [("key", ["οδος", "οδος"])] ?_⟩
  intro e he
  rw [List.mem_singleton.mp he]
  refine ⟨hname, fun t ht => ?_⟩
  have heq : t = "οδος" := by simpa using ht
  rwa [heq]

end Candidates

end KeywordGrammar
