import OriginRegistry.Decimal.Shortest
import OriginRegistry.Text.Quoted

set_option autoImplicit false

namespace OriginRegistry.Json

inductive Found
  | null
  | boolean (value : Bool)
  | integer (value : Int)
  | real (value : Decimal.Binary64)
  | text (value : String)
  | array
  | object
  deriving DecidableEq, Repr

def Found.describe : Found → String
  | .null => "null"
  | .boolean value => s!"boolean `{value}`"
  | .integer value => s!"integer `{value}`"
  | .real value => s!"floating point `{value.text}`"
  | .text value => s!"string {Text.quoted value}"
  | .array => "sequence"
  | .object => "map"

inductive Fault
  | endOfValue
  | endOfText
  | endOfArray
  | endOfObject
  | valueExpected
  | wordExpected
  | colonExpected
  | arrayCommaExpected
  | objectCommaExpected
  | trailingComma
  | trailingCharacters
  | nameExpected
  | invalidNumber
  | numberOutOfRange
  | invalidEscape
  | controlCharacter
  | loneSurrogate
  | surrogateExpected
  | tooDeep
  | invalidType (found : Found) (expected : String)
  | invalidValue (found : Found) (expected : String)
  | invalidLength (length : Nat) (expected : String)
  | missingField (name : String)
  | duplicateField (name : String)
  | unknownVariant (name : String) (variants : List String)
  | malformed (reason : String)
  deriving DecidableEq, Repr

def choiceText : List String → String
  | [] => "there are no variants"
  | [a] => s!"expected `{a}`"
  | [a, b] => s!"expected `{a}` or `{b}`"
  | names => "expected one of " ++ ", ".intercalate (names.map fun name => s!"`{name}`")

def Fault.message : Fault → String
  | .endOfValue => "EOF while parsing a value"
  | .endOfText => "EOF while parsing a string"
  | .endOfArray => "EOF while parsing a list"
  | .endOfObject => "EOF while parsing an object"
  | .valueExpected => "expected value"
  | .wordExpected => "expected ident"
  | .colonExpected => "expected `:`"
  | .arrayCommaExpected => "expected `,` or `]`"
  | .objectCommaExpected => "expected `,` or `\x7d`"
  | .trailingComma => "trailing comma"
  | .trailingCharacters => "trailing characters"
  | .nameExpected => "key must be a string"
  | .invalidNumber => "invalid number"
  | .numberOutOfRange => "number out of range"
  | .invalidEscape => "invalid escape"
  | .controlCharacter => "control character (\\u0000-\\u001F) found while parsing a string"
  | .loneSurrogate => "lone leading surrogate in hex escape"
  | .surrogateExpected => "unexpected end of hex escape"
  | .tooDeep => "recursion limit exceeded"
  | .invalidType found expected => s!"invalid type: {found.describe}, expected {expected}"
  | .invalidValue found expected => s!"invalid value: {found.describe}, expected {expected}"
  | .invalidLength length expected => s!"invalid length {length}, expected {expected}"
  | .missingField name => s!"missing field `{name}`"
  | .duplicateField name => s!"duplicate field `{name}`"
  | .unknownVariant name variants => s!"unknown variant `{name}`, {choiceText variants}"
  | .malformed reason => reason

structure Error where
  fault : Fault
  position : Option (Nat × Nat)
  deriving DecidableEq, Repr

def Error.message (e : Error) : String :=
  match e.position with
  | none => e.fault.message
  | some (line, column) => s!"{e.fault.message} at line {line} column {column}"

/-- A place in a text: what is left of it, and how many bytes of that were read all the same. -/
structure Place where
  rest : List Char
  ahead : Nat

def stepByte (position : Nat × Nat) (isBreak : Bool) : Nat × Nat :=
  if isBreak then (position.1 + 1, 0) else (position.1, position.2 + 1)

def byteBreaks (c : Char) : List Bool :=
  if c = '\n' then [true] else List.replicate c.utf8Size false

/-- Lines are counted from one; the column is the number of bytes after the last line break. -/
def Place.position (p : Place) (source : List Char) : Nat × Nat :=
  let consumed := source.take (source.length - p.rest.length)
  let breaks := consumed.flatMap byteBreaks ++ (p.rest.flatMap byteBreaks).take p.ahead
  breaks.foldl stepByte (1, 0)

/-- A fault of a reader; it has no place when only a value, and not its text, is at fault. -/
structure Refusal where
  fault : Fault
  place : Option Place

def Refusal.error (r : Refusal) (source : List Char) : Error :=
  ⟨r.fault, r.place.map fun place => place.position source⟩

end OriginRegistry.Json
