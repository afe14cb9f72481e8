import OriginRegistry.Text.Blank
import OriginRegistry.Text.Digit
import OriginRegistry.Text.Quoted

set_option autoImplicit false

namespace OriginRegistry

inductive LogFormat
  | text
  | json
  deriving DecidableEq, Repr

namespace LogFormat

def name : LogFormat → String
  | .text => "text"
  | .json => "json"

def lowerCase (s : String) : String := String.ofList (s.toList.map Char.toLower)

/-- Reads a format, or says why there is none. Case and white space around the name do not count. -/
def parse (s : String) : Except String LogFormat :=
  let name := lowerCase (Text.trimmed s)
  if name = "text" then .ok .text
  else if name = "json" then .ok .json
  else .error s!"expected text or json, got {name}"

end LogFormat

structure Settings where
  databaseUrl : String
  maxConnections : UInt32
  logFormat : LogFormat
  deriving DecidableEq, Repr

namespace Settings

def standard : Settings := ⟨"sqlite://cors-management.db?mode=rwc", 5, .text⟩

inductive Setting
  | databaseUrl
  | maxConnections
  | logFormat
  deriving DecidableEq, Repr

def Setting.key : Setting → String
  | .databaseUrl => "DATABASE_URL"
  | .maxConnections => "CORS_DB_MAX_CONNECTIONS"
  | .logFormat => "CORS_LOG_FORMAT"

structure InvalidValue where
  setting : Setting
  value : String
  reason : String
  deriving DecidableEq, Repr

def InvalidValue.message (e : InvalidValue) : String :=
  s!"Invalid value {Text.quoted e.value} for {e.setting.key}: {e.reason}"

inductive CountFault
  | invalidDigit
  | tooLarge
  | zero
  deriving DecidableEq, Repr

def CountFault.message : CountFault → String
  | .invalidDigit => "invalid digit found in string"
  | .tooLarge => "number too large to fit in target type"
  | .zero => "must be at least 1"

/-- Appends digits to the value `n`; the first fault from the left counts. -/
def readDigits (n : Nat) : List Char → Except CountFault Nat
  | [] => .ok n
  | c :: cs =>
    if Text.isDigit c then
      let m := 10 * n + Text.digitValue c
      if 0x100000000 ≤ m then .error .tooLarge else readDigits m cs
    else .error .invalidDigit

def readCount (cs : List Char) : Except CountFault UInt32 :=
  let digits :=
    match cs with
    | '+' :: cs => cs
    | cs => cs
  if digits.isEmpty then .error .invalidDigit
  else
    match readDigits 0 digits with
    | .error fault => .error fault
    | .ok n => if n = 0 then .error .zero else .ok (UInt32.ofNat n)

def parseMaxConnections (value : String) : Except InvalidValue UInt32 :=
  (readCount (Text.trim value.toList)).mapError fun fault => ⟨.maxConnections, value, fault.message⟩

def parseLogFormat (value : String) : Except InvalidValue LogFormat :=
  (LogFormat.parse value).mapError fun reason => ⟨.logFormat, value, reason⟩

def given? (lookup : Setting → Option String) (s : Setting) : Option String :=
  (lookup s).filter fun value => !Text.blank value

/-- Settings from variables. The number of connections is checked before the format. -/
def ofLookup (lookup : Setting → Option String) : Except InvalidValue Settings := do
  let databaseUrl :=
    match given? lookup .databaseUrl with
    | some url => Text.trimmed url
    | none => standard.databaseUrl
  let maxConnections ←
    match given? lookup .maxConnections with
    | some value => parseMaxConnections value
    | none => pure standard.maxConnections
  let logFormat ←
    match given? lookup .logFormat with
    | some value => parseLogFormat value
    | none => pure standard.logFormat
  return ⟨databaseUrl, maxConnections, logFormat⟩

end Settings

end OriginRegistry
