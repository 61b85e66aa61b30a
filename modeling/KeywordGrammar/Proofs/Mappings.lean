/-
# Which texts are mappings, and what they mean

A mapping is read in one pass over its text that stops at the first member of no known shape.  What it
accepts is said here of the JSON value that the text denotes: `Values` are the two shapes of what stands
under a key, with the strings they mean, and `Mapping.Denotes` is a text whose members all have one.

* `Reader.Narrows` compares two readers: one reads what the other reads, less what does not mean
  anything.  It goes from a value to a member and to a series, so the reader of mappings narrows the
  reader of values (`read_eq_ok_iff`).
* `load_mapping` is the result: a text that denotes a value is a mapping iff all members of that value
  have one of the two shapes; then its entries are what the members mean, sorted by key, and nothing
  else about the text matters.
-/
import KeywordGrammar.Proofs.GeneratedRules
import KeywordGrammar.Proofs.JsonReaders
import Mathlib.Data.List.Forall2

namespace KeywordGrammar.Mapping

open Json
open scoped List

/-! ## 1. The two shapes -/

/-- Whether `v` stands under `name`, and nothing else does. -/
def IsOnly (name : String) (v : Value) (members : List (String × Value)) : Prop :=
  ∃ before after, members = before ++ (name, v) :: after ∧ ∀ m ∈ before ++ after, m.1 ≠ name

/-- What an item of a described list means: it is a string, or an object with one label. -/
inductive ItemMeans : Value → String → Prop where
  | plain {s : String} : ItemMeans (.string s) s
  | labelled {members : List (String × Value)} {s : String} :
      IsOnly "label" (.string s) members → ItemMeans (.object members) s

/-- What stands under a key means: it is a list of strings, or an object with one list of values. -/
inductive Means : Value → List String → Prop where
  | plain {values : List String} : Means (.array (values.map .string)) values
  | described {members : List (String × Value)} {items : List Value} {values : List String} :
      IsOnly "values" (.array items) members → List.Forall₂ ItemMeans items values →
        Means (.object members) values

theorem only?_eq_some_iff {name : String} {v : Value} {members : List (String × Value)} :
    only? name members = some v ↔ IsOnly name v members := by
  have hfilter : only? name members = some v ↔
      members.filter (fun m => m.1 = name) = [(name, v)] := by
    unfold only?
    split
    · rename_i m hm
      have hname : m.1 = name := by
        have hmem : m ∈ members.filter (fun m => m.1 = name) := hm ▸ List.mem_singleton_self m
        simpa using (List.mem_filter.mp hmem).2
      rw [hm, Option.some.injEq, List.singleton_inj, Prod.ext_iff]
      simp [hname]
    · rename_i hne
      simp only [reduceCtorEq, false_iff]
      exact hne (name, v)
  rw [hfilter, List.filter_eq_cons_iff]
  constructor
  · rintro ⟨before, after, heq, hbefore, -, hafter⟩
    refine ⟨before, after, heq, fun m hm => ?_⟩
    rcases List.mem_append.mp hm with hm | hm
    · simpa using hbefore m hm
    · simpa using List.filter_eq_nil_iff.mp hafter m hm
  · rintro ⟨before, after, heq, hother⟩
    refine ⟨before, after, heq, fun m hm => ?_, by simp, List.filter_eq_nil_iff.mpr fun m hm => ?_⟩
    · simpa using hother m (List.mem_append_left _ hm)
    · simpa using hother m (List.mem_append_right _ hm)

theorem string?_eq_some_iff {v : Value} {s : String} : v.string? = some s ↔ v = .string s := by
  cases v
  all_goals simp [Value.string?]

theorem itemText?_eq_some_iff {v : Value} {s : String} : itemText? v = some s ↔ ItemMeans v s := by
  constructor
  · intro h
    unfold itemText? at h
    split at h
    · cases h
      exact .plain
    · split at h
      · rename_i members w honly
        rw [string?_eq_some_iff] at h
        subst h
        exact .labelled (only?_eq_some_iff.mp honly)
      · cases h
    · cases h
  · intro h
    cases h with
    | plain => rfl
    | labelled honly =>
      rw [← only?_eq_some_iff] at honly
      simp only [itemText?, honly, Value.string?]

theorem mapM_eq_some_iff {α β : Type} {f : α → Option β} : ∀ {l : List α} {r : List β},
    l.mapM f = some r ↔ List.Forall₂ (fun a b => f a = some b) l r
  | [], r => by simp [eq_comm]
  | a :: l, [] => by simp [List.mapM_cons, Option.bind_eq_some_iff]
  | a :: l, b :: r => by
    have ih : l.mapM f = some r ↔ _ := mapM_eq_some_iff
    simp [List.mapM_cons, Option.bind_eq_some_iff, ← ih]

theorem mapM_string?_eq_some_iff {items : List Value} {values : List String} :
    items.mapM Value.string? = some values ↔ items = values.map .string := by
  rw [mapM_eq_some_iff, ← List.forall₂_eq_eq_eq, List.forall₂_map_right_iff]
  constructor
  · exact fun h => h.imp fun _ _ => string?_eq_some_iff.mp
  · exact fun h => h.imp fun _ _ => string?_eq_some_iff.mpr

theorem values?_eq_some_iff {v : Value} {values : List String} :
    values? v = some values ↔ Means v values := by
  constructor
  · intro h
    unfold values? at h
    split at h
    · rw [mapM_string?_eq_some_iff.mp h]
      exact .plain
    · split at h
      · rename_i members items honly
        refine .described (only?_eq_some_iff.mp honly) ?_
        exact (mapM_eq_some_iff.mp h).imp fun _ _ => itemText?_eq_some_iff.mp
      · cases h
    · cases h
  · intro h
    cases h with
    | plain => exact mapM_string?_eq_some_iff.mpr rfl
    | described honly hitems =>
      rw [← only?_eq_some_iff] at honly
      simp only [values?, honly]
      exact mapM_eq_some_iff.mpr (hitems.imp fun _ _ => itemText?_eq_some_iff.mpr)

/-! ## 2. Readers that read less -/

variable {α β : Type} {R : α → β → Prop}

/-- Whether one reader reads what another one does if that means something, and then what it means. -/
def Narrows (narrow : Reader β) (wide : Reader α) (R : α → β → Prop) : Prop :=
  ∀ s x v, narrow.run s = .ok (x, v) ↔ ∃ a, wide.run s = .ok (a, v) ∧ R a x

theorem narrows_valuesReader : Narrows valuesReader (Reader.value (nestingLimit - 1)) Means := by
  intro s values r
  simp only [valuesReader, Reader.check, ← values?_eq_some_iff]
  cases (Reader.value (nestingLimit - 1)).run s with
  | error e => simp
  | ok p =>
    obtain ⟨v, t⟩ := p
    cases hvalues : values? v with
    | none => simp [hvalues]
    | some meant =>
      simp only [hvalues, Except.ok.injEq, Prod.mk.injEq]
      constructor
      · rintro ⟨rfl, rfl⟩
        exact ⟨v, ⟨rfl, rfl⟩, hvalues⟩
      · rintro ⟨w, ⟨rfl, rfl⟩, hw⟩
        rw [hvalues, Option.some.injEq] at hw
        exact ⟨hw, rfl⟩

section Series

variable {narrow : Reader β} {wide : Reader α} {b : Brackets}

theorem Narrows.member (h : Narrows narrow wide R) : Narrows (Reader.member narrow)
    (Reader.member wide) (fun m n => m.1 = n.1 ∧ R m.2 n.2) := by
  intro s p v
  constructor
  · intro hp
    obtain ⟨r, t, u, hs, hkey, hcolon, hvalue⟩ := Reader.member_run_eq_ok_iff.mp hp
    obtain ⟨a, ha, hR⟩ := (h _ _ _).mp hvalue
    exact ⟨(p.1, a), Reader.member_run_eq_ok_iff.mpr ⟨r, t, u, hs, hkey, hcolon, ha⟩, rfl, hR⟩
  · rintro ⟨q, hq, hkeys, hR⟩
    obtain ⟨r, t, u, hs, hkey, hcolon, hvalue⟩ := Reader.member_run_eq_ok_iff.mp hq
    exact Reader.member_run_eq_ok_iff.mpr
      ⟨r, t, u, hs, hkeys ▸ hkey, hcolon, (h _ _ _).mpr ⟨_, hvalue, hR⟩⟩

theorem Narrows.itemFrom_iff (h : Narrows narrow wide R) {s u : List Char} {x : β} :
    Reader.ItemFrom b narrow s x u ↔ ∃ a, Reader.ItemFrom b wide s a u ∧ R a x := by
  constructor
  · rintro ⟨hhead, hx⟩
    obtain ⟨a, ha, hR⟩ := (h _ _ _).mp hx
    exact ⟨a, ⟨hhead, ha⟩, hR⟩
  · rintro ⟨a, ⟨hhead, ha⟩, hR⟩
    exact ⟨hhead, (h _ _ _).mpr ⟨a, ha, hR⟩⟩

/-- The items behind the first one mean something one by one.  A text is longer than what is left behind
an item of it, so the induction is on its length. -/
theorem Narrows.moreFrom_iff (h : Narrows narrow wide R) (hb : b.closing ≠ ',') {s : List Char} :
    ∀ {v : List Char} {l : List β}, Reader.moreFrom b narrow s = .ok (l, v) ↔
      ∃ items, Reader.moreFrom b wide s = .ok (items, v) ∧ List.Forall₂ R items l := by
  induction hlength : s.length using Nat.strongRecOn generalizing s with
  | ind n ih =>
    have hshorter : ∀ {r u : List Char} {a : α}, skipSpace s = ',' :: r →
        Reader.ItemFrom b wide r a u → u.length < n := by
      intro r u a hs hitem
      have h₁ := length_skipSpace_le s
      have h₂ := Reader.length_lt_of_itemFrom hitem
      rw [hs, List.length_cons] at h₁
      omega
    intro v l
    constructor
    · intro hl
      rcases (Reader.moreFrom_eq_ok_iff hb).mp hl with
        ⟨hs, rfl⟩ | ⟨r, x, u, rest, hs, hitem, hrest, rfl⟩
      · exact ⟨[], (Reader.moreFrom_eq_ok_iff hb).mpr (.inl ⟨hs, rfl⟩), .nil⟩
      · obtain ⟨a, hwide, hR⟩ := h.itemFrom_iff.mp hitem
        obtain ⟨items, hitems, hRs⟩ := (ih _ (hshorter hs hwide) rfl).mp hrest
        exact ⟨a :: items, (Reader.moreFrom_eq_ok_iff hb).mpr
          (.inr ⟨r, a, u, items, hs, hwide, hitems, rfl⟩), .cons hR hRs⟩
    · rintro ⟨items, hitems, hRs⟩
      rcases (Reader.moreFrom_eq_ok_iff hb).mp hitems with
        ⟨hs, rfl⟩ | ⟨r, a, u, rest, hs, hwide, hrest, rfl⟩
      · cases hRs
        exact (Reader.moreFrom_eq_ok_iff hb).mpr (.inl ⟨hs, rfl⟩)
      · cases hRs with
        | @cons _ x _ l hR hRs =>
          have hl := (ih _ (hshorter hs hwide) rfl).mpr ⟨rest, hrest, hRs⟩
          exact (Reader.moreFrom_eq_ok_iff hb).mpr
            (.inr ⟨r, x, u, l, hs, h.itemFrom_iff.mpr ⟨a, hwide, hR⟩, hl, rfl⟩)

theorem Narrows.series (h : Narrows narrow wide R) (hb : b.closing ≠ ',') :
    Narrows (Reader.series b narrow) (Reader.series b wide) (List.Forall₂ R) := by
  intro s l v
  constructor
  · intro hl
    obtain ⟨r, hs, hr⟩ := Reader.series_run_eq_ok_iff.mp hl
    rcases Reader.itemsFrom_eq_ok_iff.mp hr with ⟨hend, rfl⟩ | ⟨x, u, rest, hitem, hrest, rfl⟩
    · exact ⟨[], Reader.series_run_eq_ok_iff.mpr
        ⟨r, hs, Reader.itemsFrom_eq_ok_iff.mpr (.inl ⟨hend, rfl⟩)⟩, .nil⟩
    · obtain ⟨a, hwide, hR⟩ := h.itemFrom_iff.mp hitem
      obtain ⟨items, hitems, hRs⟩ := (h.moreFrom_iff hb).mp hrest
      exact ⟨a :: items, Reader.series_run_eq_ok_iff.mpr
        ⟨r, hs, Reader.itemsFrom_eq_ok_iff.mpr (.inr ⟨a, u, items, hwide, hitems, rfl⟩)⟩, .cons hR hRs⟩
  · rintro ⟨items, hitems, hRs⟩
    obtain ⟨r, hs, hr⟩ := Reader.series_run_eq_ok_iff.mp hitems
    rcases Reader.itemsFrom_eq_ok_iff.mp hr with ⟨hend, rfl⟩ | ⟨a, u, rest, hwide, hrest, rfl⟩
    · cases hRs
      exact Reader.series_run_eq_ok_iff.mpr
        ⟨r, hs, Reader.itemsFrom_eq_ok_iff.mpr (.inl ⟨hend, rfl⟩)⟩
    · cases hRs with
      | @cons _ x _ l hR hRs =>
        have hl := (h.moreFrom_iff hb).mpr ⟨rest, hrest, hRs⟩
        exact Reader.series_run_eq_ok_iff.mpr ⟨r, hs, Reader.itemsFrom_eq_ok_iff.mpr
          (.inr ⟨x, u, l, h.itemFrom_iff.mpr ⟨a, hwide, hR⟩, hl, rfl⟩)⟩

end Series

/-! ## 3. Reading a mapping -/

/-- What a member of a mapping means. -/
def MemberMeans (m : String × Value) (n : String × List String) : Prop := m.1 = n.1 ∧ Means m.2 n.2

/-- Whether a text denotes an object whose members mean `meant`, in their order. -/
def Denotes (text : String) (meant : List (String × List String)) : Prop :=
  ∃ members, Value.read nestingLimit text = .ok (.object members) ∧
    List.Forall₂ MemberMeans members meant

theorem reader_run_eq_ok_iff {s v : List Char} {l : List (String × List String)} :
    reader.run s = .ok (l, v) ↔ membersReader.run (skipSpace s) = .ok (l, v) := by
  constructor
  · intro h
    simp only [reader] at h
    split at h
    · cases h
    · rename_i hs
      rw [hs]
      split at h
      · exact h
      · split at h
        · cases h
        · split at h
          · cases h
          · cases h
  · intro h
    obtain ⟨r, hs, -⟩ := Reader.series_run_eq_ok_iff.mp h
    rw [hs] at h
    simp only [reader, hs, if_true, h]

/-- The reader of mappings reads what the reader of values does if that is an object whose members all
mean something. -/
theorem readAll_reader_iff {text : String} {meant : List (String × List String)} :
    readAll reader text = .ok meant ↔ Denotes text meant := by
  have hnarrows : Narrows membersReader (.series .object (.member (Reader.value (nestingLimit - 1))))
      (List.Forall₂ MemberMeans) := narrows_valuesReader.member.series (by decide)
  have hread : ∀ {members : List (String × Value)},
      Value.read nestingLimit text = .ok (.object members) ↔
        ∃ r, (Reader.series .object (.member (Reader.value (nestingLimit - 1)))).run
          (skipSpace text.toList) = .ok (members, r) ∧ skipSpace r = [] := by
    intro members
    rw [Value.read, readAll_eq_ok_iff]
    simp only [nestingLimit, Reader.value_run_eq_object_iff]
  rw [readAll_eq_ok_iff]
  simp only [reader_run_eq_ok_iff, hnarrows _ _ _, Denotes, hread]
  constructor
  · rintro ⟨r, ⟨members, hmembers, hmeans⟩, hend⟩
    exact ⟨members, ⟨r, hmembers, hend⟩, hmeans⟩
  · rintro ⟨members, ⟨r, hmembers, hend⟩, hmeans⟩
    exact ⟨r, ⟨members, hmembers, hmeans⟩, hend⟩

/-! ## 4. Entries -/

theorem read_eq_ok_iff {text : String} {entries : List Entry} : read text = .ok entries ↔
    ∃ meant, Denotes text meant ∧
      entries = (Dictionary.ofList meant).entries.map (fun e => ⟨e.1, e.2⟩) := by
  simp only [read, ← readAll_reader_iff]
  cases readAll reader text with
  | error e => simp [Except.map]
  | ok meant => simp [Except.map, eq_comm]

theorem exists_meant_iff {members : List (String × Value)} :
    (∃ meant, List.Forall₂ MemberMeans members meant) ↔
      ∀ m ∈ members, ∃ values, Means m.2 values := by
  constructor
  · rintro ⟨meant, h⟩
    induction h with
    | nil => simp
    | cons hm _ ih =>
      intro m hmem
      rcases List.mem_cons.mp hmem with rfl | hmem
      · exact ⟨_, hm.2⟩
      · exact ih m hmem
  · intro h
    induction members with
    | nil => exact ⟨[], .nil⟩
    | cons m rest ih =>
      obtain ⟨values, hvalues⟩ := h m List.mem_cons_self
      obtain ⟨meant, hmeant⟩ := ih (fun m hm => h m (List.mem_cons_of_mem _ hm))
      exact ⟨(m.1, values) :: meant, .cons ⟨rfl, hvalues⟩ hmeant⟩

theorem keys_of_means {members : List (String × Value)} {meant : List (String × List String)}
    (h : List.Forall₂ MemberMeans members meant) : members.map Prod.fst = meant.map Prod.fst := by
  induction h with
  | nil => rfl
  | cons hm _ ih => rw [List.map_cons, List.map_cons, hm.1, ih]

/-- A text is of the form of a mapping iff it means something. -/
theorem exists_denotes_iff {text : String} : (∃ meant, Denotes text meant) ↔
    ∃ members, Value.read nestingLimit text = .ok (.object members) ∧
      ∀ m ∈ members, ∃ values, Means m.2 values := by
  simp only [← exists_meant_iff]
  constructor
  · rintro ⟨meant, members, hmembers, hmeant⟩
    exact ⟨members, hmembers, meant, hmeant⟩
  · rintro ⟨members, hmembers, meant, hmeant⟩
    exact ⟨meant, members, hmembers, hmeant⟩

/-- The entries of a text under different keys are what it means, and nothing else decides them. -/
theorem read_of_denotes {text : String} {meant : List (String × List String)}
    (h : Denotes text meant) (hdistinct : (meant.map Prod.fst).Nodup) :
    ∃ entries, read text = .ok entries ∧ (entries.map Entry.key).Pairwise (· < ·) ∧
      entries.map (fun e => (e.key, e.values)) ~ meant ∧
      ∀ text' meant', Denotes text' meant' → meant' ~ meant → read text' = .ok entries := by
  refine ⟨_, read_eq_ok_iff.mpr ⟨meant, h, rfl⟩, ?_, ?_, fun text' meant' h' hperm => ?_⟩
  · rw [List.map_map]
    exact (Dictionary.ofList meant).increasing
  · rw [List.map_map]
    exact (List.map_id _).symm ▸ Dictionary.perm_entries_ofList hdistinct
  · exact read_eq_ok_iff.mpr ⟨meant', h', by rw [Dictionary.ofList_eq_of_perm hdistinct hperm]⟩

/-! ## 5. Loading a mapping -/

section Loading

variable {files : FileReader} {dir : DataDirectory} {file k m text : String}

theorem load_eq (hread : dir.read files file = .ok text) :
    Source.load files dir ⟨file, .mapping k m⟩ =
      match read text with
      | .ok entries => .ok (.mapping k m entries)
      | .error (fault, position) => .error (.json (dir.join file) fault position) := by
  rw [Source.load, hread]
  rfl

/-- A file is loaded or is malformed JSON for a mapping. -/
theorem load_eq_ok_or_error (hread : dir.read files file = .ok text) :
    ((∃ meant, Denotes text meant) ∧
        ∃ s, Source.load files dir ⟨file, .mapping k m⟩ = .ok s) ∨
      ((¬ ∃ meant, Denotes text meant) ∧ ∃ fault position,
        Source.load files dir ⟨file, .mapping k m⟩ =
          .error (.json (dir.join file) fault position)) := by
  rw [load_eq hread]
  cases hentries : read text with
  | error e =>
    refine .inr ⟨?_, e.1, e.2, rfl⟩
    rintro ⟨meant, hmeant⟩
    rw [read_eq_ok_iff.mpr ⟨meant, hmeant, rfl⟩] at hentries
    cases hentries
  | ok entries =>
    obtain ⟨meant, hmeant, -⟩ := read_eq_ok_iff.mp hentries
    exact .inl ⟨⟨meant, hmeant⟩, _, rfl⟩

/-- **Which files are mappings, and what they hold.**  A file whose text denotes a JSON value is loaded
iff that value is an object and each of its members has one of the two shapes.  If its keys differ, the
entries are what the members mean, one entry for each member and sorted by key, and any other text
with members of that meaning has these entries too.  A text of any other form is malformed JSON for a
mapping, and the failure says so. -/
theorem load_mapping (hread : dir.read files file = .ok text) :
    (∀ v, Value.read nestingLimit text = .ok v →
      ((∃ s, Source.load files dir ⟨file, .mapping k m⟩ = .ok s) ↔
        ∃ members, v = .object members ∧ ∀ e ∈ members, ∃ values, Means e.2 values)) ∧
    (∀ members meant, Value.read nestingLimit text = .ok (.object members) →
      (members.map Prod.fst).Nodup → List.Forall₂ MemberMeans members meant →
      ∃ entries, Source.load files dir ⟨file, .mapping k m⟩ = .ok (.mapping k m entries) ∧
        (entries.map Entry.key).Pairwise (· < ·) ∧
        entries.map (fun e => (e.key, e.values)) ~ meant ∧
        ∀ text' meant', Denotes text' meant' → meant' ~ meant → read text' = .ok entries) ∧
    ((¬ ∃ members, Value.read nestingLimit text = .ok (.object members) ∧
        ∀ e ∈ members, ∃ values, Means e.2 values) →
      ∃ fault position, Source.load files dir ⟨file, .mapping k m⟩ =
        .error (.json (dir.join file) fault position)) := by
  have hload := load_eq_ok_or_error (k := k) (m := m) hread
  refine ⟨fun v hv => ?_, fun members meant hmembers hnodup hmeant => ?_, fun hnot => ?_⟩
  · have hobject : (∃ meant, Denotes text meant) ↔
        ∃ members, v = .object members ∧ ∀ e ∈ members, ∃ values, Means e.2 values := by
      simp only [exists_denotes_iff, hv, Except.ok.injEq]
    rw [← hobject]
    rcases hload with ⟨hdenotes, hok⟩ | ⟨hnot, fault, position, herror⟩
    · exact ⟨fun _ => hdenotes, fun _ => hok⟩
    · simp [hnot, herror]
  · have hdistinct : (meant.map Prod.fst).Nodup := keys_of_means hmeant ▸ hnodup
    obtain ⟨entries, hentries, hsorted, hperm, hsame⟩ :=
      read_of_denotes ⟨members, hmembers, hmeant⟩ hdistinct
    exact ⟨entries, by rw [load_eq hread, hentries], hsorted, hperm, hsame⟩
  · rcases hload with ⟨hdenotes, -⟩ | ⟨-, herror⟩
    · exact absurd (exists_denotes_iff.mp hdenotes) hnot
    · exact herror

end Loading

/-- A mapping in both shapes: a described list with a label under one key, a plain one under the other. -/
def skillText : String :=
  "\x7b\"Skill\": \x7b\"x\": [1], \"values\": [\x7b\"label\": \"Easy\"\x7d, \"~Skill\"]\x7d," ++
    "\"Class\": [\"Spy\"]\x7d"

/-- The file of `skillText`, and no other. -/
def skillFiles : FileReader := fun path =>
  if path = "data/skills.json" then .ok skillText else .error .notFound

theorem load_mapping_skills :
    (DataDirectory.folder "data").read skillFiles "skills.json" = .ok skillText ∧
      Denotes skillText [("Skill", ["Easy", "~Skill"]), ("Class", ["Spy"])] ∧
      ∃ entries, Source.load skillFiles (.folder "data") ⟨"skills.json", .mapping "key" "value"⟩ =
          .ok (.mapping "key" "value" entries) ∧
        (entries.map Entry.key).Pairwise (· < ·) ∧
        entries.map (fun e => (e.key, e.values)) ~
          [("Skill", ["Easy", "~Skill"]), ("Class", ["Spy"])] := by
  have hread : (DataDirectory.folder "data").read skillFiles "skills.json" = .ok skillText := rfl
  have hdenotes : Denotes skillText [("Skill", ["Easy", "~Skill"]), ("Class", ["Spy"])] :=
    readAll_reader_iff.mp (by decide +kernel)
  obtain ⟨members, hmembers, hmeant⟩ := id hdenotes
  have hnodup : (members.map Prod.fst).Nodup := by
    rw [keys_of_means hmeant]
    decide
  obtain ⟨entries, hload, hsorted, hperm, -⟩ :=
    (load_mapping hread).2.1 members _ hmembers hnodup hmeant
  exact ⟨hread, hdenotes, entries, hload, hsorted, hperm⟩

end KeywordGrammar.Mapping
