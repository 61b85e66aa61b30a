/-
# The program

The outermost layer: it asks the system for the files, the settings and the time that a call needs,
has the command line decide what is to be done, and does it.
-/
import KeywordGrammar.CommandLine
import KeywordGrammar.Disk
import Std.Time.Format

namespace KeywordGrammar.Main

/-! ## 1. Files -/

/-- The number and the words that the operating system gives an error. -/
def systemError : IO.Error → Option (UInt32 × String)
  | .noFileOrDirectory _ code details => some (code, details)
  | .noSuchThing _ code details => some (code, details)
  | .inappropriateType _ code details => some (code, details)
  | .invalidArgument _ code details => some (code, details)
  | .permissionDenied _ code details => some (code, details)
  | .resourceExhausted _ code details => some (code, details)
  | .otherError code details => some (code, details)
  | _ => none

/-- The number of an error without its sign: some calls give it negated. -/
def errorNumber (code : UInt32) : Nat :=
  (min code (0 - code)).toNat

/-- The fault that an error of the system amounts to. -/
def faultOf (e : IO.Error) : FileFault :=
  match systemError e with
  | none => .other (toString e)
  | some (code, details) =>
    match errorNumber code with
    | 2 => .notFound
    | 20 => .notDirectory
    | 21 => .isDirectory
    | 36 => .nameTooLong
    | number => .other (details ++ " (os error " ++ toString number ++ ")")

/-- The text of a file. -/
def readText (path : String) : IO (Except FileFault String) := do
  if path.toList.contains '\x00' then return .error .nulInName
  try
    return Disk.textOf (← IO.FS.readBinFile path)
  catch e => return .error (faultOf e)

/-- Creates or replaces a file. -/
def writeText (path text : String) : IO (Except FileFault Unit) := do
  if path.toList.contains '\x00' then return .error .nulInName
  try
    IO.FS.writeBinFile path text.toUTF8
    return .ok ()
  catch e => return .error (faultOf e)

/-- The files that a run reads, by their paths. -/
def filesOf (config : Config) : IO FileReader := do
  let read ← config.sources.mapM (fun spec => do
    let path := config.dataDirectory.join spec.file
    return (path, ← readText path))
  return fun path => (read.lookup path).getD (.error .notFound)

/-! ## 2. Time -/

/-- The time of day in universal time, as log lines give it. -/
def timeText : IO String := do
  let now ← Std.Time.Timestamp.now
  return (Std.Time.DateTime.ofTimestampWithZone now .UTC).format "uuuu-MM-dd'T'HH:mm:ss.SSSSSS'Z'"

/-- A count of nanoseconds in units of `10 ^ places`, with as many decimals as it needs. -/
def inUnits (nanoseconds places : Nat) : String :=
  let unit := Nat.pow 10 places
  let digits := Nat.toDigits 10 (unit + nanoseconds % unit)
  let decimals := ((digits.drop 1).reverse.dropWhile (· == '0')).reverse
  let whole := toString (nanoseconds / unit)
  if decimals.isEmpty then whole else whole ++ "." ++ String.ofList decimals

/-- A duration in the largest unit that it reaches. -/
def durationText (nanoseconds : Nat) : String :=
  if 1000000000 ≤ nanoseconds then inUnits nanoseconds 9 ++ "s"
  else if 1000000 ≤ nanoseconds then inUnits nanoseconds 6 ++ "ms"
  else if 1000 ≤ nanoseconds then inUnits nanoseconds 3 ++ "µs"
  else toString nanoseconds ++ "ns"

/-! ## 3. The call -/

/-- The directory of the data that comes with the program, beside the program itself. -/
def homeDirectory : IO DataDirectory := do
  return .folder ((← IO.appDir).toString ++ "/data/popfile")

/-- The files of the run that some arguments ask for, and how long it takes to generate from them. -/
def prepare (home : DataDirectory) (color : Bool) (arguments : List String) :
    IO (FileReader × String) := do
  match CommandLine.parse home color arguments with
  | .ok (.generate o) =>
    let started ← IO.monoNanosNow
    let config := Config.popfile o.dataDirectory
    let files ← filesOf config
    let _ ← IO.lazyPure (fun _ => (generate files config).events.length)
    return (files, durationText ((← IO.monoNanosNow) - started))
  | _ => return (fun _ => .error .notFound, "")

end KeywordGrammar.Main

open KeywordGrammar KeywordGrammar.Main in
/-- The whole call: it ends with the exit code that the command line decides on. -/
def main (arguments : List String) : IO UInt32 := do
  let stderr ← IO.getStderr
  let color ← stderr.isTty
  let home ← homeDirectory
  let (files, elapsed) ← prepare home color arguments
  let clock : CommandLine.Clock := ⟨← timeText, elapsed⟩
  let setting ← IO.getEnv "POPGRAM_LOG"
  let output ← match CommandLine.action files home color setting clock arguments with
    | .finish output => pure output
    | .write path text next => return ← finish (next (← writeText path text))
  finish output
where
  /-- Shows what a run leaves behind. -/
  finish (output : CommandLine.Output) : IO UInt32 := do
    (← IO.getStdout).putStr output.standardOutput
    (← IO.getStderr).putStr output.standardError
    return UInt32.ofNat output.exitCode
