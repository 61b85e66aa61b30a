/-
# The command line

The arguments are read from left to right; a request for help or for the version ends the reading, and
so does the first mistake.  A run writes either the whole document or nothing: it is generated before
anything is written, to the standard output or to one file.  Log and report go to the standard error.

The program comes with keyword data in a directory of its own, its `home`.  That is where the data is
read unless an argument gives another directory, and it is read like any other.
-/
import KeywordGrammar.Report

namespace KeywordGrammar.CommandLine

/-! ## 1. Options -/

/-- What a run is asked to do. -/
structure Options where
  dataDirectory : DataDirectory
  output : Option String
  report : Bool
  color : Bool
  deriving DecidableEq, Repr

/-- A run with the data that comes with the program to the standard output. -/
def Options.standard (home : DataDirectory) : Options := ⟨home, none, false, false⟩

/-- What the arguments ask for. -/
inductive Request where
  | generate (options : Options)
  | help
  | version
  deriving DecidableEq, Repr

/-- What is wrong with the arguments. -/
inductive UsageFault where
  | missingValue (option : String)
  | repeatedOutput
  | unknownArgument (argument : String)
  deriving DecidableEq, Repr

/-- A text without any number of repetitions of `lead` in front. -/
def dropLead (lead text : List Char) : List Char :=
  if _h : lead ≠ [] ∧ lead.isPrefixOf text then dropLead lead (text.drop lead.length) else text
termination_by text.length
decreasing_by
  have hlead : 0 < lead.length := List.length_pos_iff.mpr _h.1
  have hle : lead.length ≤ text.length := (List.isPrefixOf_iff_prefix.mp _h.2).length_le
  simp only [List.length_drop]
  omega

/-- The value that an argument gives to the option it starts with. -/
def attached? (lead argument : String) : Option String :=
  if lead.toList.isPrefixOf argument.toList then
    some (String.ofList (dropLead lead.toList argument.toList))
  else none

/-- Sets the output, once. -/
def Options.withOutput (o : Options) (path : String) : Except UsageFault Options :=
  if o.output.isSome then .error .repeatedOutput else .ok { o with output := some path }

/-- What an argument is. -/
inductive Argument where
  | help
  | version
  | report
  | color (wanted : Bool)
  /-- The data directory follows. -/
  | data
  /-- The output follows. -/
  | output
  | dataIs (path : String)
  | outputIs (path : String)
  | unknown
  deriving DecidableEq, Repr

/-- What an argument in the place of an option is. -/
def Argument.ofText (text : String) : Argument :=
  if text = "-h" ∨ text = "--help" then .help
  else if text = "-V" ∨ text = "--version" then .version
  else if text = "--report" then .report
  else if text = "--color" then .color true
  else if text = "--no-color" then .color false
  else if text = "--data" ∨ text = "-d" then .data
  else if text = "--output" ∨ text = "-o" then .output
  else
    match attached? "--data=" text with
    | some path => .dataIs path
    | none =>
      match attached? "--output=" text with
      | some path => .outputIs path
      | none => .unknown

/-- Reads the arguments that follow those that made the options what they are. -/
def parseFrom (o : Options) : List String → Except UsageFault Request
  | [] => .ok (.generate o)
  | argument :: rest =>
    match Argument.ofText argument with
    | .help => .ok .help
    | .version => .ok .version
    | .report => parseFrom { o with report := true } rest
    | .color wanted => parseFrom { o with color := wanted } rest
    | .data =>
      match rest with
      | [] => .error (.missingValue "--data")
      | value :: rest => parseFrom { o with dataDirectory := .folder value } rest
    | .output =>
      match rest with
      | [] => .error (.missingValue "--output")
      | value :: rest =>
        match o.withOutput value with
        | .ok o => parseFrom o rest
        | .error e => .error e
    | .dataIs value => parseFrom { o with dataDirectory := .folder value } rest
    | .outputIs value =>
      match o.withOutput value with
      | .ok o => parseFrom o rest
      | .error e => .error e
    | .unknown => .error (.unknownArgument argument)

/-- Reads the arguments; `home` is where the data is, and `color` what the report does, unless an argument
says otherwise. -/
def parse (home : DataDirectory) (color : Bool) (arguments : List String) :
    Except UsageFault Request :=
  parseFrom { Options.standard home with color := color } arguments

/-! ## 2. Texts -/

/-- The version line. -/
def versionText : String := "popgram 0.1.0\n"

/-- The help text, which names the place of the data. -/
def helpText (home : DataDirectory) : String := String.join (([
    "popgram 0.1.0",
    "",
    "Generates the Popfile syntax-highlighting grammar (tmLanguage JSON).",
    "",
    "Usage:",
    "  popgram [OPTIONS]",
    "",
    "Options:",
    "  -d, --data <dir>      Directory holding keyword.control.txt, values.json",
    "                        and keys.json.",
    "                        Default: " ++ home.path,
    "  -o, --output <file>   Write the grammar to <file> instead of stdout.",
    "  --report              Print a per-category summary to stderr.",
    "  --color               Force ANSI color in the report.",
    "  --no-color            Disable ANSI color in the report.",
    "  -h, --help            Show this help message.",
    "  -V, --version         Print version information.",
    "",
    "Environment:",
    "  POPGRAM_LOG           Log filter (for example `debug`). Default: warn.",
    "",
    "Exit codes:",
    "  0  Success.",
    "  1  Generation failed (missing source, unranked category, ...).",
    "  2  Invalid arguments."] : List String).map (· ++ "\n"))

/-- The wording of a mistake. -/
def UsageFault.message (home : DataDirectory) : UsageFault → String
  | missingValue option => "error: " ++ option ++ " expects a value"
  | repeatedOutput => "error: output provided multiple times"
  | unknownArgument argument => "error: unknown argument '" ++ argument ++ "'\n\n" ++ helpText home

/-! ## 3. Runs -/

/-- What a run leaves behind for its caller. -/
structure Output where
  exitCode : Nat
  standardOutput : String
  standardError : String
  deriving DecidableEq, Repr

/-- The texts of a run that depend on when it takes place: the time of a log line, and how long the
generation took. -/
structure Clock where
  time : String
  elapsed : String

/-- What a run has to do: to finish, or to write a file first and see whether that worked. -/
inductive Action where
  | finish (output : Output)
  | write (path text : String) (next : Except FileFault Unit → Output)

/-- The end of a run that failed. -/
def failed (log : String) (failure : Failure) : Output :=
  ⟨1, "", log ++ "error: " ++ failure.message ++ "\n"⟩

/-- What a run with some options has to do. -/
def Options.action (files : FileReader) (filter : Filter) (clock : Clock) (o : Options) : Action :=
  let config := Config.popfile o.dataDirectory
  let run := KeywordGrammar.generate files config
  let log := logText filter clock.time run.events
  match run.outcome with
  | .error failure => .finish (failed log failure)
  | .ok g =>
    let document := g.grammar.document
    let report := if o.report then Report.text o.color config g clock.elapsed else ""
    match o.output with
    | none => .finish ⟨0, document, log ++ report⟩
    | some path =>
      .write path document (fun written =>
        match written with
        | .ok _ => ⟨0, "", log ++ report⟩
        | .error cause => failed log (.file path cause))

/-- What a call with some arguments has to do; `setting` is the log filter asked for. -/
def action (files : FileReader) (home : DataDirectory) (color : Bool) (setting : Option String)
    (clock : Clock) (arguments : List String) : Action :=
  match parse home color arguments with
  | .error fault => .finish ⟨2, "", fault.message home ++ "\n"⟩
  | .ok .help => .finish ⟨0, helpText home ++ "\n", ""⟩
  | .ok .version => .finish ⟨0, versionText, ""⟩
  | .ok (.generate o) => o.action files (Filter.ofSetting setting) clock

section Calls

variable {State Place : Type} (system : FileSystem State Place) (s : State)

/-- Does what a run has to do, in a file system. -/
def Action.perform : Action → Output × State
  | finish output => (output, s)
  | write path text next =>
    match system.writeText s path text with
    | .ok changed => (next (.ok ()), changed)
    | .error cause => (next (.error cause), s)

/-- A whole call in a file system; `color` is whether the report is in color without being asked to. -/
def call (home : DataDirectory) (color : Bool) (setting : Option String) (clock : Clock)
    (arguments : List String) : Output × State :=
  (action (system.read s) home color setting clock arguments).perform system s

end Calls

end KeywordGrammar.CommandLine
