import OriginRegistry.Address
import OriginRegistry.Distinct
import OriginRegistry.Text.Blank

set_option autoImplicit false

namespace OriginRegistry

/-- An origin in its normal text. -/
structure Origin where
  text : String
  deriving DecidableEq, Repr

namespace Origin

inductive Fault
  | whitespace
  | address (refusal : Address.Refusal)
  | missingHost
  | credentials
  | path
  | queryOrFragment
  | noWebOrigin
  deriving DecidableEq, Repr

def Fault.message : Fault → String
  | .whitespace => "contains whitespace"
  | .address refusal => refusal.message
  | .missingHost => "missing host"
  | .credentials => "credentials are not allowed"
  | .path => "path is not allowed"
  | .queryOrFragment => "query and fragment are not allowed"
  | .noWebOrigin => "scheme has no web origin"

/-- Why a text is refused. `origin` is the text without white space at its ends. -/
inductive Refusal
  | blank
  | malformed (origin : String) (fault : Fault)
  deriving DecidableEq, Repr

def Refusal.message : Refusal → String
  | .blank => "Origin must not be blank"
  | .malformed origin fault => s!"Origin {origin} is malformed: {fault.message}"

def render (scheme : Scheme) (host : Host) (port : Option Nat) : List Char :=
  scheme.name ++ [':', '/', '/'] ++ host.text ++
    match port with
    | none => []
    | some n => ':' :: Nat.toDigits 10 n

def ofAddress (a : Address) : Except Fault (List Char) :=
  match a.host with
  | none => .error .missingHost
  | some host =>
    if !a.username.isEmpty || a.password.isSome then .error .credentials
    else if a.path ≠ [] ∧ a.path ≠ [[]] then .error .path
    else if a.query.isSome || a.fragment.isSome then .error .queryOrFragment
    else if !a.scheme.hasWebOrigin then .error .noWebOrigin
    else .ok (render a.scheme host a.port)

def ofTrimmed (cs : List Char) : Except Fault (List Char) :=
  if cs.any Text.isBlank then .error .whitespace
  else
    match Address.parse cs with
    | .error refusal => .error (.address refusal)
    | .ok address => ofAddress address

/-- Reads an origin; white space around it does not count. -/
def parse (text : String) : Except Refusal Origin :=
  match Text.trim text.toList with
  | [] => .error .blank
  | cs =>
    match ofTrimmed cs with
    | .ok normal => .ok ⟨String.ofList normal⟩
    | .error fault => .error (.malformed (String.ofList cs) fault)

def parseEach : List String → Except Refusal (List Origin)
  | [] => .ok []
  | text :: texts =>
    match parse text with
    | .error refusal => .error refusal
    | .ok origin =>
      match parseEach texts with
      | .ok origins => .ok (origin :: origins)
      | .error refusal => .error refusal

/-- The distinct origins of a list, in the order of their first spellings. -/
def parseAll (texts : List String) : Except Refusal (List Origin) := (parseEach texts).map distinct

end Origin

end OriginRegistry
