import Std.Time.Format
import EndpointCountry.Command.Batch
import EndpointCountry.Command.Lookup

/-!
# The program

The files, the environment and the clock of the machine, and the command line that uses them: its
first argument names the command, the others are those of the command.
-/

namespace EndpointCountry.Program

/-- The reason for which the machine refuses an access. -/
def refusal : IO.Error → Storage.Refusal
  | .noFileOrDirectory _ _ _ => .noEntry
  | .alreadyExists _ code details | .inappropriateType _ code details
  | .invalidArgument _ code details | .permissionDenied _ code details
  | .resourceExhausted _ code details | .noSuchThing _ code details
  | .interrupted _ code details => .other s!"{details} (os error {code})"
  | .otherError code details | .resourceBusy code details | .resourceVanished code details
  | .unsupportedOperation code details | .hardwareFault code details
  | .unsatisfiedConstraints code details | .illegalOperation code details
  | .protocolError code details | .timeExpired code details =>
    .other s!"{details} (os error {code})"
  | .unexpectedEof => .other "unexpected end of file"
  | .userError text => .other text

/-- Does something with a file, or stops with the fault. -/
def accessing {α : Type} (action : IO α) : ExceptT Fault IO α :=
  ExceptT.mk do
    match ← action.toBaseIO with
    | .ok a => pure (.ok a)
    | .error e => pure (.error (.storage (refusal e)))

/-- The files of the machine. A file is written with the directories above it. -/
def storage : Storage IO where
  read path := accessing (IO.FS.readBinFile path)
  write path content := accessing do
    let directory := Path.parent path
    if directory ≠ "" then IO.FS.createDirAll directory
    IO.FS.writeBinFile path content

/-- The parts of some bytes between null bytes. -/
def splitNull (bytes : List UInt8) : List (List UInt8) :=
  bytes.foldr (fun b parts => if b = 0 then [] :: parts else (b :: parts.headD []) :: parts.tail) []

/-- The name and the value of a variable. -/
def nameAndValue? (bytes : List UInt8) : Option (String × String) := do
  let name ← String.fromUTF8? ⟨(bytes.takeWhile (· ≠ 0x3D)).toArray⟩
  let value ← String.fromUTF8? ⟨((bytes.dropWhile (· ≠ 0x3D)).drop 1).toArray⟩
  pure (name, value)

/-- The variables that were set when the program was started. -/
def environment : IO Environment := do
  match ← (IO.FS.readBinFile "/proc/self/environ").toBaseIO with
  | .ok bytes =>
    let pairs := (splitNull bytes.data.toList).filterMap nameAndValue?
    pure fun name => pairs.lookup name
  | .error _ => pure fun _ => none

/-- A number with zeros before it, so that it has at least the given count of digits. -/
def padded (count : Nat) (n : Int) : String :=
  let digits := toString n
  String.ofList (List.replicate (count - digits.length) '0') ++ digits

/-- The part of a second, in thousandths, millionths or billionths as far as they are needed. -/
def secondPart (nanoseconds : Int) : String :=
  if nanoseconds = 0 then ""
  else if nanoseconds % 1000000 = 0 then "." ++ padded 3 (nanoseconds / 1000000)
  else if nanoseconds % 1000 = 0 then "." ++ padded 6 (nanoseconds / 1000)
  else "." ++ padded 9 nanoseconds

/-- The date and the time of day in universal time. -/
def now : IO String := do
  let time ← Std.Time.Timestamp.now
  let t := Std.Time.PlainDateTime.ofWallTime (Std.Time.WallTime.ofDuration time.val)
  let date := padded 4 t.date.year ++ "-" ++ padded 2 t.date.month.val ++ "-" ++
    padded 2 t.date.day.val
  let clock := padded 2 t.time.hour.val ++ ":" ++ padded 2 t.time.minute.val ++ ":" ++
    padded 2 t.time.second.val
  pure (date ++ "T" ++ clock ++ secondPart t.time.nanosecond.val ++ "Z")

/-- Prints a report and returns its exit status. -/
def print (report : Command.Report) : IO UInt32 := do
  let out ← IO.getStdout
  let err ← IO.getStderr
  report.out.forM out.putStrLn
  report.err.forM err.putStrLn
  pure (UInt32.ofNat report.exit)

/-- The first argument is a command. -/
def usage : Command.Usage :=
  ⟨[], true, ["Usage: lookup [OPTIONS] [ENDPOINTS]...", "       batch [OPTIONS]"]⟩

/-- Carries out a command line. -/
def run : List String → IO Command.Report
  | "lookup" :: args => do Command.Lookup.run (← environment) storage args
  | "batch" :: args => do Command.Batch.run (← environment) storage (← now) args
  | _ => pure (Command.Stop.usage.report usage)

end EndpointCountry.Program

/-- Carries out the command line and prints what comes of it. -/
def main (args : List String) : IO UInt32 := do
  EndpointCountry.Program.print (← EndpointCountry.Program.run args)
