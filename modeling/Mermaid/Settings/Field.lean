import Mermaid.Files.Tree
import Mermaid.Json.Basic
import Mermaid.Settings.Basic
import Mermaid.Text.Blank
import Mermaid.Text.Utf8
import Mermaid.Toml.Value

/-!
# Reading the fields of the settings

A client and a project file give values of any shape for the fields. A value that does not fit its
field is ignored with a warning. Only one value is refused altogether: a whole number given as a
time that is too large for a double.

* `Settings.Raw` is a value of either source, as far as settings tell values apart;
* `Settings.Field.read` says what a value means for a field;
* `Settings.readFields` reads all fields of a source.
-/

namespace Mermaid.Settings

/-- A value given for a field. -/
inductive Raw
  | absent
  | integer (i : Int)
  | float (x : Binary64)
  | string (s : String)
  /-- A list of strings and nothing else. -/
  | strings (items : List String)
  | other

/-- The items of a list when all of them can be read. -/
def allOf (read : α → Option β) : List α → Option (List β)
  | [] => some []
  | a :: as => do return (← read a) :: (← allOf read as)

/-- The string that a JSON value is. -/
def jsonString? : Json → Option String
  | .string s => some s
  | _ => none

/-- The string that a TOML value is. -/
def tomlString? : Toml.Value → Option String
  | .string s => some s
  | _ => none

/-- A list of strings, or else some other value. -/
def Raw.ofStrings? (items : Option (List String)) : Raw := (items.map Raw.strings).getD .other

/-- A JSON value given for a field. -/
def Raw.ofJson : Json → Raw
  | .null => .absent
  | .int i => .integer i
  | .float x => .float x
  | .string s => .string s
  | .array items => .ofStrings? (allOf jsonString? items)
  | _ => .other

/-- A TOML value given for a field. -/
def Raw.ofToml : Toml.Value → Raw
  | .integer i => .integer i
  | .float x => .float x
  | .string s => .string s
  | .array items => .ofStrings? (allOf tomlString? items)
  | _ => .other

/-- A field of the settings. -/
inductive Field
  | debounce
  | indentWidth
  | validator
  | validatorCommand
  | validatorTimeout
  | logLevel
  deriving DecidableEq

/-- All fields, in the order they are read. -/
def Field.all : List Field :=
  [.debounce, .indentWidth, .validator, .validatorCommand, .validatorTimeout, .logLevel]

/-- The key of a field in the options of a client. -/
def Field.clientKey : Field → String
  | .debounce => "debounce"
  | .indentWidth => "indentWidth"
  | .validator => "validator"
  | .validatorCommand => "validatorCommand"
  | .validatorTimeout => "validatorTimeout"
  | .logLevel => "logLevel"

/-- The key of a field in a project file. -/
def Field.fileKey : Field → String
  | .debounce => "debounce"
  | .indentWidth => "indent_width"
  | .validator => "validator"
  | .validatorCommand => "validator_command"
  | .validatorTimeout => "validator_timeout"
  | .logLevel => "log_level"

/-- Why a value does not fit a field. -/
def Field.complaint : Field → String
  | .debounce => "debounce must be a non-negative number"
  | .indentWidth => "indent_width must be an integer between 1 and 16"
  | .validator =>
    "validator must be one of " ++ ", ".intercalate (ValidatorChoice.all.map ValidatorChoice.name)
  | .validatorCommand => "validator_command must be a command line"
  | .validatorTimeout => "validator_timeout must be a non-negative number"
  | .logLevel => "log_level must be a string"

/-- What a value means for a field. -/
inductive Meaning (α : Type)
  | value (a : α)
  | unfit
  /-- A whole number too large for a double. -/
  | tooLarge

/-- What is done with the value that something means. -/
def Meaning.map (f : α → β) : Meaning α → Meaning β
  | .value a => .value (f a)
  | .unfit => .unfit
  | .tooLarge => .tooLarge

/-- The time that a value means. -/
def readTime : Raw → Meaning Binary64
  | .integer i =>
    if i < 0 then .unfit
    else match Binary64.ofInt? i with
      | some x => .value x
      | none => .tooLarge
  | .float x => if x.isNegative then .unfit else .value x
  | _ => .unfit

/-- The indentation width that a value means. -/
def readWidth : Raw → Meaning Nat
  | .integer i => if 1 ≤ i && i ≤ 16 then .value i.toNat else .unfit
  | _ => .unfit

/-- The validator that a value means. -/
def readValidator : Raw → Meaning ValidatorChoice
  | .string s =>
    match ValidatorChoice.all.find? fun c => c.name = s with
    | some c => .value c
    | none => .unfit
  | _ => .unfit

/-- The command line that a value means: a list of words, or one string cut at its blanks. -/
def readCommand (v : Raw) : Meaning (List String) :=
  let words := match v with
    | .string s => (Text.words s.toList).map String.ofList
    | .strings items => items
    | _ => []
  if words.isEmpty then .unfit else .value words

/-- The name of a log level that a value means. -/
def readLogLevel : Raw → Meaning String
  | .string s => .value s
  | _ => .unfit

/-- What a value means for a field, as a change of a patch. -/
def Field.read (v : Raw) : Field → Meaning (Patch → Patch)
  | .debounce => (readTime v).map fun x p => { p with debounce := some x }
  | .indentWidth => (readWidth v).map fun n p => { p with indentWidth := some n }
  | .validator => (readValidator v).map fun c p => { p with validator := some c }
  | .validatorCommand => (readCommand v).map fun c p => { p with validatorCommand := some c }
  | .validatorTimeout => (readTime v).map fun x p => { p with validatorTimeout := some x }
  | .logLevel => (readLogLevel v).map fun s p => { p with logLevel := some s }

/-- A value that was ignored, by its key, and why. -/
structure Warning where
  key : String
  reason : String
  deriving DecidableEq

/-- Why settings are refused altogether. -/
inductive Fault
  /-- A whole number is too large for a double. -/
  | numberTooLarge
  /-- The project file is not UTF-8. -/
  | malformedFile (m : Utf8.Malformed)
  /-- The project file holds a whole number with too many digits. -/
  | numberTooLong (digits : Nat)
  /-- The project file holds a value that lies inside too many others. -/
  | tooDeep
  /-- It cannot be told whether there is a project file. -/
  | path (f : FileFault) (path : String)

/-- What reading settings leads to: the warnings on the way, and settings or a refusal. -/
structure Reading (α : Type) where
  warnings : List Warning
  result : Except Fault α

/-- The fields of a source, added to a patch. -/
def readFields (key : Field → String) (source : String → Raw) : List Field → Patch → Reading Patch
  | [], p => ⟨[], .ok p⟩
  | f :: fs, p =>
    match source (key f) with
    | .absent => readFields key source fs p
    | v =>
      match f.read v with
      | .value change => readFields key source fs (change p)
      | .unfit =>
        let rest := readFields key source fs p
        ⟨⟨key f, f.complaint⟩ :: rest.warnings, rest.result⟩
      | .tooLarge => ⟨[], .error .numberTooLarge⟩

end Mermaid.Settings
