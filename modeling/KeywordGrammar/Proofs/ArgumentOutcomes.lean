/-
# What becomes of arguments

Arguments are options one after the other, up to the first thing that decides what becomes of all of
them: a question for the help or the version, a word that is no option, an option whose value is
missing, a second output, or the end (`Decides`).  What stands behind it is not looked at.  Until then
each option only adds to what is given, and what is given makes the options of a run (`Options.given`):
the last data directory and the last choice of colors stand, and there is one output at most.

`parse_outcome` says that the arguments can be divided so in one way, and that what is read from them is
what is decided there.  The value behind an equals sign is taken without its leads (`withoutLead`).
-/
import KeywordGrammar.Proofs.Calls
import KeywordGrammar.Proofs.OptionSpellings

namespace KeywordGrammar.CommandLine

/-! ## 1. What is given -/

/-- An option with its value. -/
inductive Given where
  | report
  | color (wanted : Bool)
  | data (path : String)
  | output (path : String)
  deriving DecidableEq

namespace Given

/-- Whether colors are wanted, if this says so. -/
def wanted? : Given → Option Bool
  | color wanted => some wanted
  | _ => none

/-- The data directory, if this gives one. -/
def data? : Given → Option String
  | data path => some path
  | _ => none

/-- The output, if this gives one. -/
def output? : Given → Option String
  | output path => some path
  | _ => none

/-- The options with this one among them. -/
def set : Given → Options → Options
  | report, o => { o with report := true }
  | color wanted, o => { o with color := wanted }
  | data path, o => { o with dataDirectory := .folder path }
  | output path, o => { o with output := some path }

/-- The arguments that give an option; a value behind an equals sign is without its leads. -/
inductive IsSpelled : Given → List String → Prop where
  | report : IsSpelled .report ["--report"]
  | color : IsSpelled (.color true) ["--color"]
  | noColor : IsSpelled (.color false) ["--no-color"]
  | data {a path : String} : a ∈ ["--data", "-d"] → IsSpelled (.data path) [a, path]
  | output {a path : String} : a ∈ ["--output", "-o"] → IsSpelled (.output path) [a, path]
  | dataIs (value : String) :
      IsSpelled (.data (withoutLead "--data=" value)) ["--data=" ++ value]
  | outputIs (value : String) :
      IsSpelled (.output (withoutLead "--output=" value)) ["--output=" ++ value]

/-- The arguments that give some options, one after the other. -/
inductive AreSpelled : List Given → List String → Prop where
  | nil : AreSpelled [] []
  | cons {g : Given} {given : List Given} {first rest : List String} : g.IsSpelled first →
      AreSpelled given rest → AreSpelled (g :: given) (first ++ rest)

end Given

/-- The options with all that is given: the last data directory, the last output and the last choice of
colors stand. -/
def Options.given (o : Options) (given : List Given) : Options where
  dataDirectory := ((given.filterMap Given.data?).getLast?.map .folder).getD o.dataDirectory
  output := (given.filterMap Given.output?).getLast?.or o.output
  report := o.report || given.contains .report
  color := (given.filterMap Given.wanted?).getLast?.getD o.color

variable {o o' : Options} {g : Given} {given : List Given} {first rest args : List String}

theorem Options.given_nil : o.given [] = o := by
  simp [Options.given]

theorem Options.given_cons : o.given (g :: given) = (g.set o).given given := by
  cases g
  all_goals simp [Options.given, Given.set, Given.data?, Given.output?, Given.wanted?,
      List.filterMap_cons, List.getLast?_cons, -List.getLast?_filterMap]

/-! ## 2. Options that are read -/

theorem step_of_isSpelled (h : g.IsSpelled first) (hone : ∀ path, g = .output path → o.output = none) :
    Step o first (g.set o) := by
  cases h with
  | report => exact .report (Argument.ofText_eq_iff.mpr .report)
  | color => exact .color (Argument.ofText_eq_iff.mpr .color)
  | noColor => exact .color (Argument.ofText_eq_iff.mpr .noColor)
  | data ha => exact .data (Argument.ofText_eq_iff.mpr (.data ha))
  | output ha => exact .output (Argument.ofText_eq_iff.mpr (.output ha)) (hone _ rfl)
  | dataIs value => exact .dataIs (Argument.ofText_eq_iff.mpr (.dataIs value))
  | outputIs value => exact .outputIs (Argument.ofText_eq_iff.mpr (.outputIs value)) (hone _ rfl)

theorem exists_isSpelled_of_step (h : Step o first o') :
    ∃ g : Given, g.IsSpelled first ∧ (∀ path, g = .output path → o.output = none) ∧
      o' = g.set o := by
  cases h with
  | report ha =>
    cases Argument.ofText_eq_iff.mp ha
    exact ⟨_, .report, nofun, rfl⟩
  | color ha =>
    cases Argument.ofText_eq_iff.mp ha with
    | color => exact ⟨_, .color, nofun, rfl⟩
    | noColor => exact ⟨_, .noColor, nofun, rfl⟩
  | data ha =>
    cases Argument.ofText_eq_iff.mp ha with
    | data ha => exact ⟨_, .data ha, nofun, rfl⟩
  | dataIs ha =>
    cases Argument.ofText_eq_iff.mp ha
    exact ⟨_, .dataIs _, nofun, rfl⟩
  | output ha hone =>
    cases Argument.ofText_eq_iff.mp ha with
    | output ha => exact ⟨_, .output ha, fun _ _ => hone, rfl⟩
  | outputIs ha hone =>
    cases Argument.ofText_eq_iff.mp ha
    exact ⟨_, .outputIs _, fun _ _ => hone, rfl⟩

/-- How many outputs there are, those among the options and those that are given. -/
def outputs (o : Options) (given : List Given) : Nat :=
  o.output.toList.length + (given.filterMap Given.output?).length

theorem outputs_cons (o : Options) (g : Given) (given : List Given) :
    outputs o (g :: given) ≤ 1 ↔
      (∀ path, g = .output path → o.output = none) ∧ outputs (g.set o) given ≤ 1 := by
  unfold outputs
  rw [List.filterMap_cons]
  cases g with
  | output path =>
    cases houtput : o.output with
    | none =>
      simp only [Given.output?, Given.set, Option.toList_none, Option.toList_some, List.length_nil,
        List.length_cons, implies_true, true_and]
      omega
    | some other => simp [Given.output?]
  | report => simp [Given.output?, Given.set]
  | color wanted => simp [Given.output?, Given.set]
  | data path => simp [Given.output?, Given.set]

/-- **Arguments are read whole iff they give options with one output at most.** -/
theorem reads_iff : Reads o args o' ↔
    ∃ given, Given.AreSpelled given args ∧ outputs o given ≤ 1 ∧ o' = o.given given := by
  constructor
  · intro h
    induction h with
    | @nil o =>
      refine ⟨[], .nil, ?_, Options.given_nil.symm⟩
      cases houtput : o.output with
      | none => simp [outputs, houtput]
      | some path => simp [outputs, houtput]
    | cons hstep _ ih =>
      obtain ⟨g, hg, hone, rfl⟩ := exists_isSpelled_of_step hstep
      obtain ⟨given, hgiven, hones, rfl⟩ := ih
      exact ⟨g :: given, .cons hg hgiven, (outputs_cons _ g given).mpr ⟨hone, hones⟩,
        Options.given_cons.symm⟩
  · rintro ⟨given, hgiven, hone, rfl⟩
    induction hgiven generalizing o with
    | nil => exact Options.given_nil ▸ .nil
    | @cons g given first rest hg _ ih =>
      obtain ⟨hfirst, hrest⟩ := (outputs_cons o g given).mp hone
      rw [Options.given_cons]
      exact .cons (step_of_isSpelled hg hfirst) (ih hrest)

/-! ## 3. What decides -/

/-- What stands behind the options that are given and decides what becomes of all arguments; `o` are the
options without any. -/
inductive Decides (o : Options) (given : List Given) :
    List String → Except UsageFault Request → Prop where
  | all : Decides o given [] (.ok (.generate (o.given given)))
  | help {a : String} {below : List String} : a ∈ ["-h", "--help"] →
      Decides o given (a :: below) (.ok .help)
  | version {a : String} {below : List String} : a ∈ ["-V", "--version"] →
      Decides o given (a :: below) (.ok .version)
  | unknown {a : String} {below : List String} : ¬ IsKnown a →
      Decides o given (a :: below) (.error (.unknownArgument a))
  | noData {a : String} : a ∈ ["--data", "-d"] → Decides o given [a] (.error (.missingValue "--data"))
  | noOutput {a : String} : a ∈ ["--output", "-o"] →
      Decides o given [a] (.error (.missingValue "--output"))
  | secondOutput {first below : List String} {path other : String} :
      (Given.output path).IsSpelled first → .output other ∈ given →
        Decides o given (first ++ below) (.error .repeatedOutput)

theorem output?_eq_some_iff {path : String} : g.output? = some path ↔ g = .output path := by
  cases g
  all_goals simp [Given.output?]

theorem exists_decides_of_asksFor {a : String} (h : AsksFor a) (below : List String) :
    ∃ outcome, Decides o given (a :: below) outcome := by
  rcases h with ha | ha
  · cases Argument.ofText_eq_iff.mp ha with
    | help ha => exact ⟨_, .help ha⟩
  · cases Argument.ofText_eq_iff.mp ha with
    | version ha => exact ⟨_, .version ha⟩

section NoOutput

variable {outcome : Except UsageFault Request} (ho : o.output = none)
include ho

theorem isSome_output_given_iff :
    (o.given given).output.isSome = true ↔ ∃ path, Given.output path ∈ given := by
  have houtput : (o.given given).output = (given.filterMap Given.output?).getLast? := by
    rw [Options.given, ho, Option.or_none]
  rw [houtput, List.getLast?_isSome, ne_eq, List.eq_nil_iff_forall_not_mem]
  simp [List.mem_filterMap, output?_eq_some_iff]

theorem parseFrom_of_decides (h : Decides o given rest outcome) :
    parseFrom (o.given given) rest = outcome := by
  rw [parseFrom.eq_def]
  cases h with
  | all => rfl
  | help ha => simp only [Argument.ofText_eq_iff.mpr (.help ha)]
  | version ha => simp only [Argument.ofText_eq_iff.mpr (.version ha)]
  | unknown ha => simp only [Argument.ofText_eq_iff.mpr (.unknown ha)]
  | noData ha => simp only [Argument.ofText_eq_iff.mpr (.data ha)]
  | noOutput ha => simp only [Argument.ofText_eq_iff.mpr (.output ha)]
  | secondOutput hspelled hother =>
    have hsome := (isSome_output_given_iff ho).mpr ⟨_, hother⟩
    have hset : ∀ path, (o.given given).withOutput path = .error .repeatedOutput :=
      fun _ => Options.withOutput_eq_error_iff.mpr ⟨hsome, rfl⟩
    cases hspelled with
    | output ha =>
      simp only [List.cons_append, Argument.ofText_eq_iff.mpr (.output ha), hset]
    | outputIs value =>
      simp only [List.cons_append, Argument.ofText_eq_iff.mpr (.outputIs value), hset]

theorem exists_decides_of_refused (h : Refused (o.given given) rest) :
    ∃ outcome, Decides o given rest outcome := by
  cases h with
  | unknown ha =>
    cases Argument.ofText_eq_iff.mp ha with
    | unknown ha => exact ⟨_, .unknown ha⟩
  | noValue ha =>
    rcases ha with ha | ha
    · cases Argument.ofText_eq_iff.mp ha with
      | data ha => exact ⟨_, .noData ha⟩
    · cases Argument.ofText_eq_iff.mp ha with
      | output ha => exact ⟨_, .noOutput ha⟩
  | output ha hsome =>
    obtain ⟨path, hother⟩ := (isSome_output_given_iff ho).mp hsome
    cases Argument.ofText_eq_iff.mp ha with
    | output ha => exact ⟨_, .secondOutput (.output ha) hother⟩
  | outputIs ha hsome =>
    obtain ⟨path, hother⟩ := (isSome_output_given_iff ho).mp hsome
    cases Argument.ofText_eq_iff.mp ha
    exact ⟨_, .secondOutput (.outputIs _) hother⟩

/-- Something decides, whatever the arguments are. -/
theorem exists_decides (args : List String) :
    ∃ above rest given outcome, args = above ++ rest ∧ Given.AreSpelled given above ∧
      outputs o given ≤ 1 ∧ Decides o given rest outcome := by
  cases ending o args with
  | all hreads =>
    obtain ⟨given, hgiven, hone, -⟩ := reads_iff.mp hreads
    exact ⟨args, [], given, _, (List.append_nil args).symm, hgiven, hone, .all⟩
  | refused hreads hrefused =>
    obtain ⟨given, hgiven, hone, rfl⟩ := reads_iff.mp hreads
    obtain ⟨outcome, hdecides⟩ := exists_decides_of_refused ho hrefused
    exact ⟨_, _, given, outcome, rfl, hgiven, hone, hdecides⟩
  | asked hreads hasks =>
    obtain ⟨given, hgiven, hone, rfl⟩ := reads_iff.mp hreads
    obtain ⟨outcome, hdecides⟩ := exists_decides_of_asksFor hasks _
    exact ⟨_, _, given, outcome, rfl, hgiven, hone, hdecides⟩

/-- What is read from arguments is what is decided behind the options that they give. -/
theorem parseFrom_eq_iff : parseFrom o args = outcome ↔
    ∃ above rest given, args = above ++ rest ∧ Given.AreSpelled given above ∧
      outputs o given ≤ 1 ∧ Decides o given rest outcome := by
  have hread : ∀ {above rest given outcome}, Given.AreSpelled given above → outputs o given ≤ 1 →
      Decides o given rest outcome → parseFrom o (above ++ rest) = outcome := by
    intro above rest given outcome hgiven hone hdecides
    rw [parseFrom_of_reads (reads_iff.mpr ⟨given, hgiven, hone, rfl⟩), parseFrom_of_decides ho hdecides]
  constructor
  · rintro rfl
    obtain ⟨above, rest, given, outcome, rfl, hgiven, hone, hdecides⟩ := exists_decides ho args
    rw [hread hgiven hone hdecides]
    exact ⟨above, rest, given, rfl, hgiven, hone, hdecides⟩
  · rintro ⟨above, rest, given, rfl, hgiven, hone, hdecides⟩
    exact hread hgiven hone hdecides

end NoOutput

/-! ## 4. Whole calls -/

section Calls

variable {State Place : Type} (system : FileSystem State Place) (s : State) (home : DataDirectory)

/-- What a call leaves behind, with its output and its report, by what is read from its arguments. -/
def answer (setting : Option String) (clock : Clock) : Except UsageFault Request → Output × State
  | .error fault => (⟨2, "", fault.message home ++ "\n"⟩, s)
  | .ok .help => (⟨0, helpText home ++ "\n", ""⟩, s)
  | .ok .version => (⟨0, versionText, ""⟩, s)
  | .ok (.generate o) => (o.action (system.read s) (Filter.ofSetting setting) clock).perform system s

theorem call_eq_answer (color : Bool) (setting : Option String) (clock : Clock) (args : List String) :
    call system s home color setting clock args =
      answer system s home setting clock (parse home color args) := by
  unfold call action
  cases parse home color args with
  | error fault => rfl
  | ok request =>
    cases request with
    | generate o => rfl
    | help => rfl
    | version => rfl

end Calls

/-- **What becomes of arguments.**  What is read from any arguments is decided by what stands first behind
the options that they give: the help or the version is asked for, or an argument is no option, or the
value of an option is missing, or an output is given a second time, or nothing stands there, and then
the options of the run are all that is given.  What stands behind that is not looked at.  The call does
what has been decided: it shows a text, it says what is wrong, or it generates. -/
theorem parse_outcome (home : DataDirectory) (color : Bool) (args : List String) :
    (∀ outcome, parse home color args = outcome ↔
      ∃ above rest given, args = above ++ rest ∧ Given.AreSpelled given above ∧
        (given.filterMap Given.output?).length ≤ 1 ∧
          Decides { Options.standard home with color := color } given rest outcome) ∧
    ∀ (State Place : Type) (system : FileSystem State Place) (s : State) setting clock,
      call system s home color setting clock args =
        answer system s home setting clock (parse home color args) := by
  refine ⟨fun outcome => ?_, fun State Place system s setting clock =>
    call_eq_answer system s home color setting clock args⟩
  have houtputs : ∀ given, outputs { Options.standard home with color := color } given =
      (given.filterMap Given.output?).length := fun given => Nat.zero_add _
  simp only [← houtputs]
  exact parseFrom_eq_iff rfl

/-- A last value that begins like its own option is cut short, and is not the data directory. -/
theorem last_attached_value_is_cut :
    (parse (.folder "words") false ["-d", "a", "--data=--data=b"]).toOption =
        some (.generate ⟨.folder "b", none, false, false⟩) ∧
      (parse (.folder "words") false ["-d", "a", "--data=--data=b"]).toOption ≠
        some (.generate ⟨.folder "--data=b", none, false, false⟩) := by
  decide +kernel

end KeywordGrammar.CommandLine
