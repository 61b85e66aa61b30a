/-
# The two spellings of an option with a value

The value of `--data` and of `--output` is the argument that follows, or stands behind an equals sign in
the same argument.  The first spelling takes any value as it is.  The second one drops the option's name
with its equals sign as often as it is repeated (`withoutLead`), so a value that begins like the option
itself is given in the first spelling only.

`ofText_eq_iff` says of each argument what it is; `parse_attached` compares the two spellings
at any place among any other arguments.
-/
import KeywordGrammar.Proofs.Arguments

namespace KeywordGrammar.CommandLine

/-! ## 1. Values without their leads -/

/-- A value without any number of repetitions of `lead` in front. -/
def withoutLead (lead value : String) : String := String.ofList (dropLead lead.toList value.toList)

theorem dropLead_append {lead : List Char} (h : lead ≠ []) (text : List Char) :
    dropLead lead (lead ++ text) = dropLead lead text := by
  rw [dropLead, dif_pos ⟨h, List.isPrefixOf_iff_prefix.mpr (List.prefix_append lead text)⟩,
    List.drop_left]

theorem length_dropLead_le (lead text : List Char) : (dropLead lead text).length ≤ text.length := by
  fun_induction dropLead lead text with
  | case1 text h ih => exact Nat.le_trans ih (List.drop_sublist ..).length_le
  | case2 => exact Nat.le_refl _

theorem dropLead_eq_self_iff {lead text : List Char} (h : lead ≠ []) :
    dropLead lead text = text ↔ ¬ lead <+: text := by
  constructor
  · rintro heq ⟨rest, rfl⟩
    rw [dropLead_append h] at heq
    have hle := length_dropLead_le lead rest
    rw [heq, List.length_append] at hle
    have := List.length_pos_iff.mpr h
    omega
  · intro hlead
    rw [dropLead, dif_neg (fun hlead' => hlead (List.isPrefixOf_iff_prefix.mp hlead'.2))]

theorem withoutLead_eq_self_iff {lead value : String} (h : lead ≠ "") :
    withoutLead lead value = value ↔ ¬ lead.toList <+: value.toList := by
  rw [withoutLead, ← String.toList_inj, String.toList_ofList]
  exact dropLead_eq_self_iff (by simpa using h)

theorem attached?_append {lead : String} (h : lead ≠ "") (value : String) :
    attached? lead (lead ++ value) = some (withoutLead lead value) := by
  rw [attached?, String.toList_append, if_pos (List.isPrefixOf_iff_prefix.mpr (List.prefix_append ..)),
    dropLead_append (by simpa using h), withoutLead]

theorem attached?_eq_none_iff {lead text : String} :
    attached? lead text = none ↔ ¬ lead.toList <+: text.toList := by
  simp [attached?]

theorem attached?_eq_some_iff {lead text path : String} (h : lead ≠ "") :
    attached? lead text = some path ↔ ∃ value, text = lead ++ value ∧ path = withoutLead lead value := by
  constructor
  · intro hsome
    have hlead : lead.toList <+: text.toList := by
      rw [attached?] at hsome
      split at hsome
      · rename_i hlead
        exact List.isPrefixOf_iff_prefix.mp hlead
      · cases hsome
    obtain ⟨rest, hrest⟩ := hlead
    have htext : text = lead ++ String.ofList rest := by
      rw [← String.toList_inj, String.toList_append, String.toList_ofList, hrest]
    rw [htext, attached?_append h] at hsome
    exact ⟨_, htext, (Option.some.inj hsome).symm⟩
  · rintro ⟨value, rfl, rfl⟩
    exact attached?_append h value

/-! ## 2. What an argument is -/

/-- The options that are one word. -/
def words : List String :=
  ["-h", "--help", "-V", "--version", "--report", "--color", "--no-color", "--data", "-d", "--output",
    "-o"]

/-- Whether an argument in the place of an option is one. -/
def IsKnown (a : String) : Prop :=
  a ∈ words ∨ "--data=".toList <+: a.toList ∨ "--output=".toList <+: a.toList

/-- The texts that are taken for an argument. -/
inductive Argument.IsSpelled : Argument → String → Prop where
  | help {a : String} : a ∈ ["-h", "--help"] → IsSpelled .help a
  | version {a : String} : a ∈ ["-V", "--version"] → IsSpelled .version a
  | report : IsSpelled .report "--report"
  | color : IsSpelled (.color true) "--color"
  | noColor : IsSpelled (.color false) "--no-color"
  | data {a : String} : a ∈ ["--data", "-d"] → IsSpelled .data a
  | output {a : String} : a ∈ ["--output", "-o"] → IsSpelled .output a
  | dataIs (value : String) : IsSpelled (.dataIs (withoutLead "--data=" value)) ("--data=" ++ value)
  | outputIs (value : String) :
      IsSpelled (.outputIs (withoutLead "--output=" value)) ("--output=" ++ value)
  | unknown {a : String} : ¬ IsKnown a → IsSpelled .unknown a

/-- No word has an equals sign. -/
theorem append_not_mem_words {lead : String} (h : '=' ∈ lead.toList) (value : String) :
    lead ++ value ∉ words := by
  have hwords : ∀ word ∈ words, '=' ∉ word.toList := by decide
  intro hmem
  refine hwords _ hmem ?_
  rw [String.toList_append]
  exact List.mem_append_left _ h

theorem Argument.isSpelled_ofText (a : String) : (ofText a).IsSpelled a := by
  unfold ofText
  split
  · exact .help (by simpa)
  split
  · exact .version (by simpa)
  split
  · subst a
    exact .report
  split
  · subst a
    exact .color
  split
  · subst a
    exact .noColor
  split
  · exact .data (by simpa)
  split
  · exact .output (by simpa)
  split
  · rename_i hdata
    obtain ⟨value, rfl, rfl⟩ := (attached?_eq_some_iff (by decide)).mp hdata
    exact .dataIs value
  split
  · rename_i houtput
    obtain ⟨value, rfl, rfl⟩ := (attached?_eq_some_iff (by decide)).mp houtput
    exact .outputIs value
  · rename_i hdata _ houtput
    rw [attached?_eq_none_iff] at hdata houtput
    refine .unknown ?_
    simp_all [IsKnown, words]

/-- **What an argument in the place of an option is, by how it is spelled.** -/
theorem Argument.ofText_eq_iff {a : String} {x : Argument} : ofText a = x ↔ x.IsSpelled a := by
  constructor
  · rintro rfl
    exact isSpelled_ofText a
  · intro h
    cases h with
    | help ha | version ha | data ha | output ha =>
      simp only [List.mem_cons, List.not_mem_nil, or_false] at ha
      rcases ha with rfl | rfl
      all_goals decide +kernel
    | report | color | noColor => decide +kernel
    | dataIs value =>
      have hwords : "--data=" ++ value ∉ words := append_not_mem_words (by decide) value
      simp_all [ofText, words, attached?_append]
    | outputIs value =>
      have hwords : "--output=" ++ value ∉ words := append_not_mem_words (by decide) value
      have hdata : attached? "--data=" ("--output=" ++ value) = none := by
        simp [attached?_eq_none_iff]
      simp_all [ofText, words, attached?_append]
    | unknown ha =>
      simp only [IsKnown, not_or, ← attached?_eq_none_iff] at ha
      simp_all [ofText, words]

/-! ## 3. Two spellings -/

section Spellings

variable {option : String} (hoption : option ∈ ["--data", "--output"])
include hoption

/-- A value in the argument of its option is read as the argument behind it without the leads. -/
theorem parseFrom_attached (value : String) (below : List String) (o : Options) :
    parseFrom o ((option ++ "=" ++ value) :: below) =
      parseFrom o (option :: withoutLead (option ++ "=") value :: below) := by
  rw [parseFrom.eq_def o (_ :: below), parseFrom.eq_def o (option :: _)]
  simp only [List.mem_cons, List.not_mem_nil, or_false] at hoption
  rcases hoption with rfl | rfl
  · have hlead : "--data" ++ "=" = "--data=" := by decide
    have hword : Argument.ofText "--data" = .data := by decide +kernel
    simp only [hlead, hword, Argument.ofText_eq_iff.mpr (.dataIs value)]
  · have hlead : "--output" ++ "=" = "--output=" := by decide
    have hword : Argument.ofText "--output" = .output := by decide +kernel
    simp only [hlead, hword, Argument.ofText_eq_iff.mpr (.outputIs value)]

/-- Different values are read differently. -/
theorem value_of_parse_eq {home : DataDirectory} {value other : String}
    (h : parse home false [option, value] = parse home false [option, other]) : value = other := by
  simp only [List.mem_cons, List.not_mem_nil, or_false] at hoption
  rcases hoption with rfl | rfl
  · have hword : Argument.ofText "--data" = .data := by decide +kernel
    have hread : ∀ path, parse home false ["--data", path] =
        .ok (.generate { Options.standard home with dataDirectory := .folder path }) :=
      fun path => parseFrom_of_step (.data hword) []
    rw [hread, hread] at h
    cases h
    rfl
  · have hword : Argument.ofText "--output" = .output := by decide +kernel
    have hread : ∀ path, parse home false ["--output", path] =
        .ok (.generate { Options.standard home with output := some path }) :=
      fun path => parseFrom_of_step (.output hword rfl) []
    rw [hread, hread] at h
    cases h
    rfl

/-- **The two spellings of an option with a value.**  Wherever an option stands, its value behind the equals
sign is read as the value without its leads in an argument of its own.  So the two spellings of a value
are read alike among all other arguments iff the value does not itself begin with the option and an
equals sign. -/
theorem parse_attached (home : DataDirectory) (value : String) :
    (∀ color above below, IsWhole above →
      parse home color (above ++ (option ++ "=" ++ value) :: below) =
        parse home color (above ++ option :: withoutLead (option ++ "=") value :: below)) ∧
    ((∀ color above below, IsWhole above →
      parse home color (above ++ (option ++ "=" ++ value) :: below) =
        parse home color (above ++ option :: value :: below)) ↔
      ¬ (option ++ "=").toList <+: value.toList) := by
  have hattached : ∀ color above below, IsWhole above →
      parse home color (above ++ (option ++ "=" ++ value) :: below) =
        parse home color (above ++ option :: withoutLead (option ++ "=") value :: below) :=
    fun color above below habove =>
      parseFrom_append_congr id (parseFrom_attached hoption value below) habove _
  have hlead : option ++ "=" ≠ "" := fun h => by
    simpa using congrArg String.toList h
  refine ⟨hattached, ?_⟩
  rw [← withoutLead_eq_self_iff hlead]
  constructor
  · intro hsame
    have halone := hsame false [] [] .nil
    rw [hattached false [] [] .nil] at halone
    exact value_of_parse_eq hoption halone
  · intro hvalue color above below habove
    rw [hattached color above below habove, hvalue]

end Spellings

/-- A value that begins with no option, behind an option that is given a word as its value. -/
theorem parse_attached_plain :
    "--data" ∈ ["--data", "--output"] ∧ IsWhole ["-o", "--data"] ∧
      parse (.folder "words") false ["-o", "--data", "--data=d", "--report"] =
        parse (.folder "words") false ["-o", "--data", "--data", "d", "--report"] := by
  have hoption : "--data" ∈ ["--data", "--output"] := by decide
  have habove : IsWhole ["-o", "--data"] := .valued (by simp [TakesValue]) .nil
  exact ⟨hoption, habove,
    (parse_attached hoption (.folder "words") "d").2.mpr (by decide) false ["-o", "--data"] ["--report"]
      habove⟩

/-- A value that begins like its own option is cut short behind the equals sign. -/
theorem attached_value_is_cut :
    (parse (.folder "words") false ["--data=--data=d"]).toOption =
        some (.generate ⟨.folder "d", none, false, false⟩) ∧
      (parse (.folder "words") false ["--data", "--data=d"]).toOption =
        some (.generate ⟨.folder "--data=d", none, false, false⟩) ∧
      parse (.folder "words") false ["--data=--data=d"] ≠
        parse (.folder "words") false ["--data", "--data=d"] := by
  have hcut : (parse (.folder "words") false ["--data=--data=d"]).toOption =
      some (.generate ⟨.folder "d", none, false, false⟩) := by decide +kernel
  have hwhole : (parse (.folder "words") false ["--data", "--data=d"]).toOption =
      some (.generate ⟨.folder "--data=d", none, false, false⟩) := by decide +kernel
  refine ⟨hcut, hwhole, fun heq => ?_⟩
  rw [heq, hwhole] at hcut
  exact absurd hcut (by decide)

end KeywordGrammar.CommandLine
