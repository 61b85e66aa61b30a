/-
# A grammar document is read back

`Grammar.document` is a JSON text with a line feed behind it, and reading that text as JSON gives back
all that the grammar holds (`document_read_back`).  So no two grammars have one document: what was
written is what is read, and what is read tells the grammar.

`Rule.IsWritten` and `Grammar.IsWritten` say of the members of a read object what they hold of a rule or
of a grammar: which keys there are, in which order, and what stands under each of them.  They do not
speak of how the object was built, and they alone decide the rule and the grammar
(`Rule.IsWritten.unique`, `Grammar.IsWritten.unique`).
-/
import KeywordGrammar.Grammar
import KeywordGrammar.Proofs.PrintedValues

namespace KeywordGrammar

open Json

/-! ## 1. What the members of an object hold -/

/-- Whether an object has the members of a rule: the name and the captures only if the rule has some, and
the pattern. -/
structure Rule.IsWritten (r : Rule) (members : List (String × Value)) : Prop where
  keys : members.map Prod.fst = (if r.name.isSome then ["name"] else []) ++ ["match"] ++
    (if r.captures.isSome then ["captures"] else [])
  name : members.lookup "name" = r.name.map .string
  pattern : members.lookup "match" = some (.string r.pattern)
  captures : members.lookup "captures" = r.captures.map (fun captures =>
    .object (captures.entries.map (fun e => (e.1, .object [("name", .string e.2)]))))

/-- Whether an object has the members of a grammar: the schema only if the grammar has one, and the rules
in their order. -/
structure Grammar.IsWritten (g : Grammar) (members : List (String × Value)) : Prop where
  keys : members.map Prod.fst = (if g.schema.isSome then ["$schema"] else []) ++
    ["name", "patterns", "repository", "scopeName"]
  schema : members.lookup "$schema" = g.schema.map .string
  name : members.lookup "name" = some (.string g.name)
  patterns : ∃ rules, members.lookup "patterns" = some (.array (rules.map .object)) ∧
    List.Forall₂ Rule.IsWritten g.patterns rules
  repository : members.lookup "repository" = some (.object g.repository.entries)
  scopeName : members.lookup "scopeName" = some (.string g.scopeName)

/-- An object holds at most one rule. -/
theorem Rule.IsWritten.unique {r r' : Rule} {members : List (String × Value)}
    (h : r.IsWritten members) (h' : r'.IsWritten members) : r = r' := by
  have hname : r.name = r'.name :=
    Option.map_injective (fun _ _ => Value.string.inj) (h.name.symm.trans h'.name)
  have hpattern : r.pattern = r'.pattern :=
    Value.string.inj (Option.some.inj (h.pattern.symm.trans h'.pattern))
  have hcaptures : r.captures = r'.captures := by
    refine Option.map_injective (fun d d' hd => ?_) (h.captures.symm.trans h'.captures)
    refine Dictionary.eq_of_entries (List.map_injective_iff.mpr ?_ (Value.object.inj hd))
    intro e e' he
    simp only [Prod.mk.injEq, Value.object.injEq, List.cons.injEq, Value.string.injEq] at he
    exact Prod.ext he.1 he.2.1.2
  cases r
  cases r'
  cases hname
  cases hpattern
  cases hcaptures
  rfl

/-- An object holds at most one grammar. -/
theorem Grammar.IsWritten.unique {g g' : Grammar} {members : List (String × Value)}
    (h : g.IsWritten members) (h' : g'.IsWritten members) : g = g' := by
  have hschema : g.schema = g'.schema :=
    Option.map_injective (fun _ _ => Value.string.inj) (h.schema.symm.trans h'.schema)
  have hname : g.name = g'.name :=
    Value.string.inj (Option.some.inj (h.name.symm.trans h'.name))
  have hpatterns : g.patterns = g'.patterns := by
    obtain ⟨rules, hrules, hwritten⟩ := h.patterns
    obtain ⟨rules', hrules', hwritten'⟩ := h'.patterns
    have heq : rules = rules' := List.map_injective_iff.mpr (fun _ _ => Value.object.inj)
      (Value.array.inj (Option.some.inj (hrules.symm.trans hrules')))
    subst heq
    exact List.left_unique_forall₂' (fun _ _ _ hr hr' => hr.unique hr') hwritten hwritten'
  have hrepository : g.repository = g'.repository := Dictionary.eq_of_entries
    (Value.object.inj (Option.some.inj (h.repository.symm.trans h'.repository)))
  have hscopeName : g.scopeName = g'.scopeName :=
    Value.string.inj (Option.some.inj (h.scopeName.symm.trans h'.scopeName))
  cases g
  cases g'
  cases hschema
  cases hname
  cases hpatterns
  cases hrepository
  cases hscopeName
  rfl

/-! ## 2. What is written -/

/-- The members that a rule is written with. -/
def Rule.members (r : Rule) : List (String × Value) :=
  optionalMember "name" .string r.name ++ [("match", .string r.pattern)] ++
    optionalMember "captures" capturesValue r.captures

theorem Rule.toValue_eq (r : Rule) : r.toValue = .object r.members := rfl

theorem Rule.isWritten_members (r : Rule) : r.IsWritten r.members := by
  obtain ⟨name, pattern, captures⟩ := r
  cases name with
  | none =>
    cases captures with
    | none => exact ⟨rfl, rfl, rfl, rfl⟩
    | some captures => exact ⟨rfl, rfl, rfl, rfl⟩
  | some name =>
    cases captures with
    | none => exact ⟨rfl, rfl, rfl, rfl⟩
    | some captures => exact ⟨rfl, rfl, rfl, rfl⟩

/-- The members that a grammar is written with. -/
def Grammar.members (g : Grammar) : List (String × Value) :=
  optionalMember "$schema" .string g.schema ++
    [("name", .string g.name), ("patterns", .array (g.patterns.map Rule.toValue)),
      ("repository", .object g.repository.entries), ("scopeName", .string g.scopeName)]

theorem Grammar.toValue_eq (g : Grammar) : g.toValue = .object g.members := rfl

theorem Grammar.isWritten_members (g : Grammar) : g.IsWritten g.members := by
  have hpatterns : List.Forall₂ Rule.IsWritten g.patterns (g.patterns.map Rule.members) :=
    List.forall₂_map_right_iff.mpr (List.forall₂_same.mpr fun r _ => r.isWritten_members)
  have hrules : g.patterns.map Rule.toValue = (g.patterns.map Rule.members).map .object := by
    rw [List.map_map]
    rfl
  obtain ⟨schema, name, patterns, repository, scopeName⟩ := g
  cases schema with
  | none => exact ⟨rfl, rfl, rfl, ⟨_, by rw [← hrules]; rfl, hpatterns⟩, rfl, rfl⟩
  | some schema => exact ⟨rfl, rfl, rfl, ⟨_, by rw [← hrules]; rfl, hpatterns⟩, rfl, rfl⟩

/-! ## 3. Which grammars -/

/-- Whether all numbers in a grammar's repository are integers of 64 bits. -/
def Grammar.IsWhole (g : Grammar) : Prop := ∀ e ∈ g.repository.entries, e.2.isWhole = true

/-- What is left out or is whole is whole. -/
theorem isWhole_of_mem_optionalMember {α : Type} {key : String} {write : α → Value}
    (hwrite : ∀ a, (write a).isWhole = true) {a : Option α} {m : String × Value}
    (hm : m ∈ optionalMember key write a) : m.2.isWhole = true := by
  cases a with
  | none => cases hm
  | some a =>
    rw [List.mem_singleton.mp hm]
    exact hwrite a

theorem isWhole_string (s : String) : (Value.string s).isWhole = true := by
  simp only [Value.isWhole]

theorem isWhole_capturesValue (captures : Dictionary String) :
    (capturesValue captures).isWhole = true := by
  rw [capturesValue, Value.isWhole, haveWhole_iff]
  intro m hm
  obtain ⟨e, -, rfl⟩ := List.mem_map.mp hm
  simp [Value.isWhole, haveWhole]

theorem Rule.isWhole_toValue (r : Rule) : r.toValue.isWhole = true := by
  rw [Rule.toValue_eq, Value.isWhole, haveWhole_iff]
  intro m hm
  simp only [Rule.members, List.mem_append, List.mem_singleton] at hm
  rcases hm with (hm | rfl) | hm
  · exact isWhole_of_mem_optionalMember isWhole_string hm
  · exact isWhole_string r.pattern
  · exact isWhole_of_mem_optionalMember isWhole_capturesValue hm

theorem Grammar.isWhole_toValue {g : Grammar} (h : g.IsWhole) : g.toValue.isWhole = true := by
  rw [Grammar.toValue_eq, Value.isWhole, haveWhole_iff]
  intro m hm
  simp only [Grammar.members, List.mem_append, List.mem_cons, List.not_mem_nil, or_false] at hm
  rcases hm with hm | rfl | rfl | rfl | rfl
  · exact isWhole_of_mem_optionalMember isWhole_string hm
  · exact isWhole_string g.name
  · rw [Value.isWhole, areWhole_iff]
    intro v hv
    obtain ⟨r, -, rfl⟩ := List.mem_map.mp hv
    exact r.isWhole_toValue
  · rw [Value.isWhole, haveWhole_iff]
    exact h
  · exact isWhole_string g.scopeName

/-! ## 4. Reading a document -/

/-- How many levels the document of a grammar nests. -/
def Grammar.nesting (g : Grammar) : Nat := g.toValue.nesting

theorem Grammar.read_text {g : Grammar} (hg : g.IsWhole) {depth : Nat} (hdepth : g.nesting ≤ depth)
    {blanks : String} (hblanks : ∀ c ∈ blanks.toList, isSpace c = true) :
    Value.read depth (g.toValue.text .indented ++ blanks) = .ok (.object g.members) :=
  Json.read_text Layout.isSpacing_indented (isWhole_toValue hg) hdepth hblanks

theorem getLast?_bracketed (layout : Layout) (depth : Nat) (opening closing : Char)
    (items : List (List Char)) :
    (bracketed layout depth opening closing items).getLast? = some closing := by
  unfold bracketed
  split
  · rfl
  · rw [← List.cons_append, List.getLast?_concat]

/-- The text of a grammar ends with the closing brace of its object. -/
theorem Grammar.getLast?_text (g : Grammar) :
    (g.toValue.text .indented).toList.getLast? = some '\x7d' := by
  rw [Value.text, String.toList_ofList, Grammar.toValue_eq, Value.textAt]
  exact getLast?_bracketed _ _ _ _ _

/-- **A document is read back as its grammar.**  It is a JSON text and one line feed behind its last brace,
and with the line feed or without it is read as an object that holds this grammar; so no other grammar
has this document. -/
theorem document_read_back {g : Grammar} (hg : g.IsWhole) :
    (∃ text members, g.document = text ++ "\n" ∧ text.toList.getLast? = some '\x7d' ∧
      g.IsWritten members ∧ ∀ depth, g.nesting ≤ depth →
        Value.read depth text = .ok (.object members) ∧
          Value.read depth g.document = .ok (.object members)) ∧
      ∀ g' : Grammar, g'.IsWhole → g'.document = g.document → g' = g := by
  have hfeed : ∀ c ∈ "\n".toList, isSpace c = true := List.forall_mem_singleton.mpr rfl
  constructor
  · refine ⟨g.toValue.text .indented, g.members, rfl, g.getLast?_text, g.isWritten_members, ?_⟩
    intro depth hdepth
    constructor
    · have hread : Value.read depth (g.toValue.text .indented ++ "") = .ok (.object g.members) :=
        Grammar.read_text hg hdepth (by simp)
      rwa [String.append_empty] at hread
    · exact Grammar.read_text hg hdepth hfeed
  · intro g' hg' hdocument
    -- a depth that suffices for both, so that both documents are read
    have hread := Grammar.read_text hg (Nat.le_max_right g'.nesting g.nesting) hfeed
    have hread' := Grammar.read_text hg' (Nat.le_max_left g'.nesting g.nesting) hfeed
    have hmembers : g'.members = g.members := by
      rw [Grammar.document, Grammar.document] at hdocument
      rw [hdocument, hread] at hread'
      exact (Value.object.inj (Except.ok.inj hread')).symm
    exact g'.isWritten_members.unique (hmembers ▸ g.isWritten_members)

/-- A grammar whose pattern and names need escapes, with captures and a nested part in the repository. -/
def escapedGrammar : Grammar where
  schema := none
  name := "a\"b\n\x01"
  patterns := [⟨none, "\\b\"(\\w+)\"", some (Dictionary.ofList [("1", "string\t")])⟩]
  repository := Dictionary.ofList
    [("part", .object [("empty", .array []), ("bounds", .array [.int (-7), .int maxSignificand])])]
  scopeName := "source.é"

theorem document_read_back_escaped : escapedGrammar.IsWhole ∧
    ((∃ text members, escapedGrammar.document = text ++ "\n" ∧ text.toList.getLast? = some '\x7d' ∧
      escapedGrammar.IsWritten members ∧ ∀ depth, escapedGrammar.nesting ≤ depth →
        Value.read depth text = .ok (.object members) ∧
          Value.read depth escapedGrammar.document = .ok (.object members)) ∧
      ∀ g' : Grammar, g'.IsWhole → g'.document = escapedGrammar.document → g' = escapedGrammar) := by
  have hwhole : escapedGrammar.IsWhole := by
    unfold Grammar.IsWhole
    decide
  exact ⟨hwhole, document_read_back hwhole⟩

end KeywordGrammar
