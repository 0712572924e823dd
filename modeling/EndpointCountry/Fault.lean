import EndpointCountry.Delimited.Table

/-!
# Faults

Everything that can go wrong, with its wording, its category, how severe it is, what to do about it
and the exit status it leads to.
-/

namespace EndpointCountry

/-! ## Refused accesses -/

namespace Storage

/-- A reason of the file system, or of this library, for refusing an access. -/
inductive Refusal where
  /-- No such file or directory. -/
  | noEntry
  /-- A file stands where a directory has to be made. -/
  | entryExists
  /-- A file stands where the path goes on. -/
  | notDirectory
  /-- A directory stands where a file is wanted. -/
  | isDirectory
  /-- A part of the path, or the whole, is longer than the file system allows. -/
  | nameTooLong
  /-- The path holds a null character. -/
  | nullInPath
  /-- The content is not well-formed UTF-8. -/
  | notText
  /-- A reason in other words. -/
  | other (text : String)
  deriving DecidableEq

namespace Refusal

/-- The wording of a reason; those of the file system carry its error number. -/
def message : Refusal → String
  | noEntry => "No such file or directory (os error 2)"
  | entryExists => "File exists (os error 17)"
  | notDirectory => "Not a directory (os error 20)"
  | isDirectory => "Is a directory (os error 21)"
  | nameTooLong => "File name too long (os error 36)"
  | nullInPath => "file name contained an unexpected NUL byte"
  | notText => "stream did not contain valid UTF-8"
  | other text => text

end Refusal

end Storage

/-! ## Faults -/

/-- A fault. -/
inductive Fault where
  /-- An endpoint or a country code is malformed. -/
  | argument (message : String)
  /-- A file could not be read or written. -/
  | storage (cause : Storage.Refusal)
  /-- A table could not be read or written. -/
  | delimited (cause : Delimited.Defect)
  /-- A datum could not be turned into a value. -/
  | encoding (cause : String)
  /-- The configuration as a whole is wrong. -/
  | configuration (message : String)
  /-- A part of the configuration is wrong. -/
  | setting (field message : String)
  /-- One value in the configuration is wrong. -/
  | settingValue (field value reason : String)
  /-- A value that the configuration has to give is absent. -/
  | settingMissing (field : String)
  /-- A row could not be processed. -/
  | processing (message : String)
  deriving DecidableEq

/-- Where a fault comes from. -/
inductive Category where
  | input
  | configuration
  | io
  | processing
  deriving DecidableEq

/-- How severe a fault is, the least severe first. -/
inductive Severity where
  | low
  | medium
  | high
  | critical
  deriving DecidableEq, Ord

instance : Max Severity where
  max a b := if (compare a b).isLE then b else a

instance : Std.MaxEqOr Severity where
  max_eq_or a b := by
    cases a <;> cases b <;> decide

/-- The exit status of a run that ends in a fault of the given severity. -/
def Severity.exitStatus : Severity → Nat
  | .low => 0
  | .medium => 2
  | .high => 1
  | .critical => 3

/-- The severity of a fault of the given category. -/
def Category.severity : Category → Severity
  | .input => .high
  | .configuration => .high
  | .processing => .medium
  | .io => .critical

namespace Fault

/-- The wording of a fault. -/
def message : Fault → String
  | argument message => s!"Invalid argument: {message}"
  | storage cause => s!"IO error: {cause.message}"
  | delimited cause => s!"CSV processing error: {cause.message}"
  | encoding cause => s!"Serialization error: {cause}"
  | configuration message => s!"Configuration error: {message}"
  | setting field message => s!"Configuration error in '{field}': {message}"
  | settingValue field value reason => s!"Invalid value '{value}' for '{field}': {reason}"
  | settingMissing field => s!"Missing required configuration: {field}"
  | processing message => s!"Data processing error: {message}"

/-- Where a fault comes from. -/
def category : Fault → Category
  | argument _ => .input
  | storage _ => .io
  | configuration _ | setting .. | settingValue .. | settingMissing _ => .configuration
  | delimited _ | encoding _ | processing _ => .processing

/-- How severe a fault is: its category decides. -/
def severity (fault : Fault) : Severity :=
  fault.category.severity

/-- The exit status of a run that ends in a fault. -/
def exitStatus (fault : Fault) : Nat :=
  fault.severity.exitStatus

/-- What the user can do about a fault. -/
def suggestion : Fault → String
  | argument _ => "Pass the endpoint as 'scheme:value', e.g. 'GLN:5790000000001'"
  | storage _ => "Check that the file exists and the path is writable"
  | delimited _ => "Check the input delimiter and that every row has the header's column count"
  | encoding _ => "Check the output data for values that cannot be encoded"
  | configuration _ | setting .. => "Fix the TOML configuration file and try again"
  | settingValue .. => "Correct the reported value in the configuration file"
  | settingMissing _ => "Add the missing field to the configuration file"
  | processing _ => "Inspect the offending input row or relax 'on_invalid_endpoint'"

/-- The wording of a fault for someone who runs a command. -/
def friendly : Fault → String
  | argument message => s!"Invalid endpoint: {message}"
  | storage cause => s!"Could not access a file: {cause.message}"
  | settingMissing field => s!"The configuration is missing '{field}'"
  | fault => fault.message

end Fault

end EndpointCountry
