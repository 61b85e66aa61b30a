/-
# Dictionaries

A dictionary maps names to values and is held as the list of its entries in strictly increasing order
of their names (the order of the UTF-8 bytes).  Everything the program writes out by name comes in
this order: the categories that terms were listed for, the captures of a rule, the repository of a
document.
-/

namespace KeywordGrammar

open scoped List

/-! ## 1. Inserting into an ordered list of entries -/

/-- Puts `value` under `name`, in place of what stood there. -/
def putEntry {α : Type} (name : String) (value : α) : List (String × α) → List (String × α)
  | [] => [(name, value)]
  | (n, v) :: rest =>
    if name < n then (name, value) :: (n, v) :: rest
    else if name = n then (name, value) :: rest
    else (n, v) :: putEntry name value rest

theorem mem_keys_putEntry {α : Type} {name n : String} {value : α} :
    ∀ {l : List (String × α)}, n ∈ (putEntry name value l).map Prod.fst ↔
      n = name ∨ n ∈ l.map Prod.fst
  | [] => by simp [putEntry]
  | (m, v) :: rest => by
    have ih : n ∈ (putEntry name value rest).map Prod.fst ↔ _ := mem_keys_putEntry
    simp only [putEntry]
    split
    · simp
    · split
      · rename_i h
        simp [h]
      · simp only [List.map_cons, List.mem_cons, ih]
        constructor
        · rintro (h | h | h)
          · exact .inr (.inl h)
          · exact .inl h
          · exact .inr (.inr h)
        · rintro (h | h | h)
          · exact .inr (.inl h)
          · exact .inl h
          · exact .inr (.inr h)

theorem pairwise_putEntry {α : Type} {name : String} {value : α} :
    ∀ {l : List (String × α)}, (l.map Prod.fst).Pairwise (· < ·) →
      ((putEntry name value l).map Prod.fst).Pairwise (· < ·)
  | [], _ => by simp [putEntry]
  | (m, v) :: rest, h => by
    simp only [List.map_cons] at h
    obtain ⟨hm, hrest⟩ := List.pairwise_cons.mp h
    simp only [putEntry]
    split
    · rename_i hlt
      refine List.pairwise_cons.mpr ⟨fun k hk => ?_, h⟩
      rcases List.mem_cons.mp hk with rfl | hk
      · exact hlt
      · exact String.lt_trans hlt (hm k hk)
    · split
      · rename_i heq
        subst heq
        exact List.pairwise_cons.mpr ⟨hm, hrest⟩
      · rename_i hnlt hne
        refine List.pairwise_cons.mpr ⟨fun k hk => ?_, pairwise_putEntry hrest⟩
        rcases mem_keys_putEntry.mp hk with rfl | hk
        · rcases Std.lt_trichotomy m k with hlt | heq | hgt
          · exact hlt
          · exact absurd heq.symm hne
          · exact absurd hgt hnlt
        · exact hm k hk

/-! ## 2. The type -/

/-- Values by name. -/
structure Dictionary (α : Type) where
  entries : List (String × α)
  increasing : (entries.map Prod.fst).Pairwise (· < ·)

namespace Dictionary

variable {α : Type}

/-- The dictionary without entries. -/
def empty : Dictionary α := ⟨[], by simp⟩

instance : EmptyCollection (Dictionary α) := ⟨empty⟩
instance : Inhabited (Dictionary α) := ⟨empty⟩

instance [DecidableEq α] : DecidableEq (Dictionary α) := fun d e =>
  if h : d.entries = e.entries then .isTrue (by cases d; cases e; simp_all)
  else .isFalse (fun he => h (he ▸ rfl))

/-- The names, in increasing order. -/
def names (d : Dictionary α) : List String := d.entries.map Prod.fst

/-- The value under `name`. -/
def get? (d : Dictionary α) (name : String) : Option α := d.entries.lookup name

/-- Puts `value` under `name`, in place of what stood there. -/
def insert (d : Dictionary α) (name : String) (value : α) : Dictionary α :=
  ⟨putEntry name value d.entries, pairwise_putEntry d.increasing⟩

/-- The dictionary of a list of entries; of several under one name the last stands. -/
def ofList (entries : List (String × α)) : Dictionary α :=
  entries.foldl (fun d e => d.insert e.1 e.2) ∅

@[simp] theorem mem_names_insert {d : Dictionary α} {name n : String} {value : α} :
    n ∈ (d.insert name value).names ↔ n = name ∨ n ∈ d.names :=
  mem_keys_putEntry

theorem lookup_entry {name n : String} {value : α} {rest : List (String × α)} :
    ((name, value) :: rest).lookup n = if n = name then some value else rest.lookup n := by
  by_cases h : n = name
  · simp [h]
  · have hb : (n == name) = false := by simpa using h
    simp [List.lookup_cons, h, hb]

theorem lookup_putEntry {name n : String} {value : α} : ∀ {l : List (String × α)},
    (putEntry name value l).lookup n = if n = name then some value else l.lookup n
  | [] => lookup_entry
  | (m, v) :: rest => by
    have ih : (putEntry name value rest).lookup n = _ := lookup_putEntry
    simp only [putEntry]
    split
    · exact lookup_entry
    · split
      · rename_i heq
        subst heq
        rw [lookup_entry, lookup_entry]
        split <;> rfl
      · rename_i hne
        rw [lookup_entry, lookup_entry, ih]
        by_cases h : n = m
        · subst h
          simp [Ne.symm hne]
        · simp [h]

/-- Inserting changes what stands under the one name. -/
@[simp] theorem get?_insert {d : Dictionary α} {name n : String} {value : α} :
    (d.insert name value).get? n = if n = name then some value else d.get? n :=
  lookup_putEntry

theorem lookup_eq_some_iff_mem {n : String} {v : α} : ∀ {l : List (String × α)},
    (l.map Prod.fst).Pairwise (· < ·) → (l.lookup n = some v ↔ (n, v) ∈ l)
  | [], _ => by simp
  | (m, w) :: rest, h => by
    simp only [List.map_cons] at h
    obtain ⟨hm, hrest⟩ := List.pairwise_cons.mp h
    rw [List.mem_cons, lookup_entry]
    by_cases hn : n = m
    · subst hn
      simp only [Prod.mk.injEq, true_and, if_true, Option.some.injEq]
      constructor
      · exact fun hv => .inl hv.symm
      · rintro (hv | hv)
        · exact hv.symm
        · exact absurd (hm n (List.mem_map_of_mem (f := Prod.fst) hv)) (String.lt_irrefl n)
    · simp [hn, lookup_eq_some_iff_mem hrest]

/-- The entries are what stands under the names. -/
theorem mem_entries_iff {d : Dictionary α} {n : String} {v : α} :
    (n, v) ∈ d.entries ↔ d.get? n = some v :=
  (lookup_eq_some_iff_mem d.increasing).symm

/-! ## 3. All entries at once -/

/-- Dictionaries with the same entries are the same. -/
theorem eq_of_entries {d e : Dictionary α} (h : d.entries = e.entries) : d = e := by
  cases d
  cases e
  cases h
  rfl

/-- The order of the entries is no matter of choice. -/
theorem eq_of_perm {d e : Dictionary α} (h : d.entries ~ e.entries) : d = e := by
  have hd : d.entries.Pairwise (fun x y => x.1 < y.1) := List.pairwise_map.mp d.increasing
  have he : e.entries.Pairwise (fun x y => x.1 < y.1) := List.pairwise_map.mp e.increasing
  exact eq_of_entries
    (h.eq_of_pairwise (fun x y _ _ hlt hgt => absurd hgt (String.lt_asymm hlt)) hd he)

theorem perm_putEntry {name : String} {value : α} : ∀ {l : List (String × α)},
    name ∉ l.map Prod.fst → putEntry name value l ~ (name, value) :: l
  | [], _ => .refl _
  | (n, v) :: rest, h => by
    simp only [List.map_cons, List.mem_cons, not_or] at h
    rw [putEntry]
    split
    · exact .refl _
    · rw [if_neg h.1]
      exact ((perm_putEntry h.2).cons (n, v)).trans (.swap _ _ _)

theorem perm_foldl_insert : ∀ {l : List (String × α)} {d : Dictionary α},
    (l.map Prod.fst).Nodup → (∀ e ∈ l, e.1 ∉ d.names) →
      (l.foldl (fun d e => d.insert e.1 e.2) d).entries ~ d.entries ++ l
  | [], d, _, _ => by
    rw [List.append_nil]
    exact .refl _
  | e :: l, d, hnodup, hnew => by
    rw [List.map_cons, List.nodup_cons] at hnodup
    have hnew' : ∀ x ∈ l, x.1 ∉ (d.insert e.1 e.2).names := by
      intro x hx
      rw [mem_names_insert, not_or]
      exact ⟨fun heq => hnodup.1 (heq ▸ List.mem_map_of_mem hx), hnew x (List.mem_cons_of_mem _ hx)⟩
    calc
      (l.foldl (fun d e => d.insert e.1 e.2) (d.insert e.1 e.2)).entries
          ~ (d.insert e.1 e.2).entries ++ l := perm_foldl_insert hnodup.2 hnew'
      _ ~ e :: d.entries ++ l := (perm_putEntry (hnew e List.mem_cons_self)).append_right l
      _ ~ d.entries ++ e :: l := List.perm_middle.symm

/-- Entries under different names are all kept. -/
theorem perm_entries_ofList {l : List (String × α)} (h : (l.map Prod.fst).Nodup) :
    (ofList l).entries ~ l := by
  refine perm_foldl_insert h (fun e _ he => ?_)
  cases he

/-- Entries under different names make the same dictionary in any order. -/
theorem ofList_eq_of_perm {l m : List (String × α)} (h : (l.map Prod.fst).Nodup) (hperm : m ~ l) :
    ofList m = ofList l := by
  have hm : (m.map Prod.fst).Nodup := (hperm.map Prod.fst).nodup_iff.mpr h
  apply eq_of_perm
  calc
    (ofList m).entries ~ m := perm_entries_ofList hm
    _ ~ l := hperm
    _ ~ (ofList l).entries := (perm_entries_ofList h).symm

end Dictionary

end KeywordGrammar
