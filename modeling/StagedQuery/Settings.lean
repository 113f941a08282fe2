import StagedQuery.Dispatch.Pipeline
import StagedQuery.Number.Decimal
import StagedQuery.Storage.DiskPath
import StagedQuery.Text.Blank
import StagedQuery.Text.CaseMap

/-!
# Settings

The settings of the engine and how they are read from the variables of an environment. The name of
a variable is that of its setting after `STAGEDB_`, without regard to case.

## Main definitions

* `Settings` — the settings; `Settings.standard` are those of an empty environment.
* `Settings.ofEnvironment` — the settings of an environment, or the names of those that cannot be
  read.
-/

namespace StagedQuery

/-- How much is logged. -/
inductive LogLevel where
  | debug
  | info
  | warning
  | error
deriving DecidableEq

/-- The form of the log. -/
inductive LogFormat where
  | json
  | console
deriving DecidableEq

/-- The settings of the engine. -/
structure Settings where
  budget : Int
  traceLevel : TraceLevel
  explains : Bool
  folder : DiskPath
  logLevel : LogLevel
  logFormat : LogFormat

/-! ## Names of choices -/

/-- The name of a trace level. -/
def TraceLevel.name : TraceLevel → String
  | none => "none"
  | minimal => "minimal"
  | detailed => "detailed"

/-- The name of a log level. -/
def LogLevel.name : LogLevel → String
  | debug => "DEBUG"
  | info => "INFO"
  | warning => "WARNING"
  | error => "ERROR"

/-- The name of a log format. -/
def LogFormat.name : LogFormat → String
  | json => "json"
  | console => "console"

/-- The choice with a name. -/
def choiceNamed? {α : Type} (name : α → String) (choices : List α) (s : String) : Option α :=
  choices.find? fun choice => name choice == s

/-- The trace level with a name. -/
def TraceLevel.ofName? : String → Option TraceLevel := choiceNamed? name [none, minimal, detailed]

/-- The log level with a name. -/
def LogLevel.ofName? : String → Option LogLevel := choiceNamed? name [debug, info, warning, error]

/-- The log format with a name. -/
def LogFormat.ofName? : String → Option LogFormat := choiceNamed? name [json, console]

/-! ## Numbers and flags -/

namespace Settings

/-- The characters that may surround a number. -/
def isMargin (c : Char) : Bool := isBlank c && !(decide (28 ≤ c.toNat) && decide (c.toNat ≤ 31))

/-- A text without the margins at its ends. -/
def trimMargins (cs : List Char) : List Char :=
  ((cs.dropWhile isMargin).reverse.dropWhile isMargin).reverse

/-- A number without the zeros at its front. One zero stays if nothing but a point follows; a
number with a minus sign is left as it is. -/
def dropZeros (cs : List Char) : Option (List Char) :=
  match cs with
  | '0' :: rest =>
    match rest.dropWhile fun c => c == '0' || c == '_' with
    | [] => (cs.getLast?).map fun c => [c]
    | '.' :: fraction =>
      let zeros := rest.takeWhile fun c => c == '0' || c == '_'
      some ((zeros.getLast?.getD '0') :: '.' :: fraction)
    | c :: digits => if '1' ≤ c ∧ c ≤ '9' then some (c :: digits) else none
  | c :: _ => if ('1' ≤ c ∧ c ≤ '9') ∨ c = '-' then some cs else none
  | [] => none

/-- A number without a fraction that is all zeros. -/
def dropFraction (cs : List Char) : List Char :=
  match cs.dropWhile (· != '.') with
  | _ :: fraction => if fraction.all (· == '0') then cs.takeWhile (· != '.') else cs
  | [] => cs

/-- Whether two underscores stand side by side. -/
def hasDoubleUnderscore : List Char → Bool
  | '_' :: '_' :: _ => true
  | _ :: rest => hasDoubleUnderscore rest
  | [] => false

/-- A number without underscores, if they are single and stand inside. -/
def dropUnderscores (cs : List Char) : List Char :=
  if cs.head? == some '_' || cs.getLast? == some '_' || hasDoubleUnderscore cs then cs
  else cs.filter (· != '_')

/-- An integer in its plain form: a minus sign or none, and digits without zeros at the front. -/
def plainInt? (cs : List Char) : Option Int :=
  let (negative, digits) : Bool × List Char := match cs with
    | '-' :: digits => (true, digits)
    | digits => (false, digits)
  if digits.isEmpty || !digits.all Char.isDigit || integerDigitLimit < digits.length
      || (digits.head? == some '0' && 1 < digits.length) then none
  else
    let n : Int := natOfDigits digits
    some (if negative then -n else n)

/-- The integer that a text gives. Blanks around it, a plus sign, zeros at the front, a fraction
of zeros and single underscores inside are allowed. -/
def intOfText? (s : String) : Option Int :=
  let trimmed := trimMargins s.toList
  let unsigned := match trimmed with
    | '+' :: rest => rest
    | cs => cs
  (dropZeros unsigned).bind fun cs => plainInt? (dropUnderscores (dropFraction cs))

/-- Text in small letters, of the basic alphabet only. -/
def plainLowercase (s : String) : String := String.ofList (s.toList.map Char.toLower)

/-- The flag that a text gives. -/
def flagOfText? (s : String) : Option Bool :=
  let word := plainLowercase s
  if ["0", "off", "f", "false", "n", "no"].contains word then some false
  else if ["1", "on", "t", "true", "y", "yes"].contains word then some true
  else none

/-! ## Environments -/

/-- The names of the settings. -/
def names : List String :=
  ["data_dir", "detailed_errors", "log_format", "log_level", "max_iterations", "trace_level"]

/-- The settings of an empty environment. -/
def standard : Settings := ⟨1000, .minimal, true, .here, .warning, .console⟩

/-- The value of the variable of a setting; of several variables the last counts. -/
def setting? (environment : List (String × String)) (setting : String) : Option String :=
  ((environment.filter fun entry => lowercase entry.1 == "stagedb_" ++ setting).getLast?).map (·.2)

/-- A setting, with its value in the standard settings if the environment has no variable for it;
an error names the setting. -/
def read {α : Type} (environment : List (String × String)) (setting : String) (fallback : α)
    (ofText? : String → Option α) : Except String α :=
  match setting? environment setting with
  | none => .ok fallback
  | some s =>
    match ofText? s with
    | some a => .ok a
    | none => .error setting

/-- The name of a setting that cannot be read. -/
def misread {α : Type} : Except String α → List String
  | .ok _ => []
  | .error setting => [setting]

/-- The settings of an environment, or the names of those that cannot be read, in alphabetical
order. -/
def ofEnvironment (environment : List (String × String)) : Except (List String) Settings :=
  let explains := read environment "detailed_errors" standard.explains flagOfText?
  let logFormat := read environment "log_format" standard.logFormat LogFormat.ofName?
  let logLevel := read environment "log_level" standard.logLevel LogLevel.ofName?
  let budget := read environment "max_iterations" standard.budget intOfText?
  let traceLevel := read environment "trace_level" standard.traceLevel TraceLevel.ofName?
  let folder := ((setting? environment "data_dir").map DiskPath.ofText).getD standard.folder
  match budget, traceLevel, explains, logLevel, logFormat with
  | .ok budget, .ok traceLevel, .ok explains, .ok logLevel, .ok logFormat =>
    .ok ⟨budget, traceLevel, explains, folder, logLevel, logFormat⟩
  | _, _, _, _, _ => .error (misread explains ++ misread logFormat ++ misread logLevel
      ++ misread budget ++ misread traceLevel)

end Settings

end StagedQuery
