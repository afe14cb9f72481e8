import OriginRegistry.Json.Scalar

set_option autoImplicit false

namespace OriginRegistry.Json

def nextItem? (first : Bool) (cs : List Char) : Except Refusal (Option (List Char)) :=
  match skipBlanks cs with
  | [] => stopPast .endOfArray []
  | ']' :: _ => .ok none
  | c :: rest =>
    if first then .ok (some (c :: rest))
    else if c = ',' then
      match skipBlanks rest with
      | [] => stopPast .endOfValue []
      | ']' :: rest => stopPast .trailingComma (']' :: rest)
      | rest => .ok (some rest)
    else stopPast .arrayCommaExpected (c :: rest)

def closeArray (cs : List Char) : Except Refusal (List Char) :=
  match skipBlanks cs with
  | [] => stopPast .endOfArray []
  | ']' :: rest => .ok rest
  | ',' :: rest =>
    match skipBlanks rest with
    | ']' :: rest => stopPast .trailingComma (']' :: rest)
    | rest => stopPast .trailingCharacters rest
  | rest => stopPast .trailingCharacters rest

def nextName? (first : Bool) (cs : List Char) : Except Refusal (Option (List Char)) :=
  let name (cs : List Char) : Except Refusal (Option (List Char)) :=
    match cs with
    | [] => stopPast .endOfValue []
    | '"' :: rest => .ok (some rest)
    | '\x7d' :: rest => stopPast .trailingComma ('\x7d' :: rest)
    | rest => stopPast .nameExpected rest
  match skipBlanks cs with
  | [] => stopPast .endOfObject []
  | '\x7d' :: _ => .ok none
  | c :: rest =>
    if first then name (c :: rest)
    else if c = ',' then name (skipBlanks rest)
    else stopPast .objectCommaExpected (c :: rest)

def closeObject (cs : List Char) : Except Refusal (List Char) :=
  match skipBlanks cs with
  | [] => stopPast .endOfObject []
  | '\x7d' :: rest => .ok rest
  | ',' :: rest => stopPast .trailingComma (',' :: rest)
  | rest => stopPast .trailingCharacters rest

def readColon (cs : List Char) : Except Refusal (List Char) :=
  match skipBlanks cs with
  | [] => stopPast .endOfObject []
  | ':' :: rest => .ok rest
  | rest => stopPast .colonExpected rest

/-- What is left where a fault of a whole array is seen: after its bracket, if that comes next. -/
def afterArray (cs : List Char) : List Char :=
  match skipBlanks cs with
  | ']' :: rest => rest
  | ',' :: rest => skipBlanks rest
  | rest => rest

def afterObject (cs : List Char) : List Char :=
  match skipBlanks cs with
  | '\x7d' :: rest => rest
  | rest => rest

/-- The items of an array up to its end; `fuel` exceeds the length of the text. -/
def readItems {α : Type} (item : Reader α) : Nat → Bool → Reader (List α)
  | 0, _, rest => stop .endOfArray rest
  | fuel + 1, first, cs =>
    match nextItem? first cs with
    | .error refusal => .error refusal
    | .ok none => (closeArray cs).map fun rest => ([], rest)
    | .ok (some rest) =>
      match item rest with
      | .error refusal => .error refusal
      | .ok (x, rest) =>
        match readItems item fuel false rest with
        | .error refusal => .error refusal
        | .ok (xs, rest) => .ok (x :: xs, rest)

def readMembers {α : Type} (value : Reader α) : Nat → Bool → Reader (List (String × α))
  | 0, _, rest => stop .endOfObject rest
  | fuel + 1, first, cs =>
    match nextName? first cs with
    | .error refusal => .error refusal
    | .ok none => (closeObject cs).map fun rest => ([], rest)
    | .ok (some rest) => do
      let (name, rest) ← readText rest
      let (x, rest) ← value (← readColon rest)
      let (xs, rest) ← readMembers value fuel false rest
      .ok ((name, x) :: xs, rest)

def depthLimit : Nat := 127

def readScalar : Reader Json := fun cs =>
  match cs with
  | 'n' :: rest => (readWord ['u', 'l', 'l'] rest).map fun rest => (.null, rest)
  | 't' :: rest => (readWord ['r', 'u', 'e'] rest).map fun rest => (.boolean true, rest)
  | 'f' :: rest => (readWord ['a', 'l', 's', 'e'] rest).map fun rest => (.boolean false, rest)
  | '-' :: rest => (readNumber true rest).map fun (n, rest) => (n.toJson, rest)
  | '"' :: rest => (readText rest).map fun (content, rest) => (.text content, rest)
  | c :: rest =>
    if Text.isDigit c then (readNumber false (c :: rest)).map fun (n, rest) => (n.toJson, rest)
    else stopPast .valueExpected (c :: rest)
  | [] => stopPast .endOfValue []

def readValue : Nat → Reader Json
  | 0, cs =>
    match skipBlanks cs with
    | '[' :: rest => stopPast .tooDeep ('[' :: rest)
    | '\x7b' :: rest => stopPast .tooDeep ('\x7b' :: rest)
    | rest => readScalar rest
  | depth + 1, cs =>
    match skipBlanks cs with
    | '[' :: rest =>
      (readItems (readValue depth) (rest.length + 1) true rest).map fun (items, rest) =>
        (.array items, rest)
    | '\x7b' :: rest =>
      (readMembers (readValue depth) (rest.length + 1) true rest).map fun (members, rest) =>
        (.object members, rest)
    | rest => readScalar rest

/-- Where a value that is skipped stands: at a value, after one, or at the name of a member. -/
inductive SkipPhase
  | value
  | next
  | name

inductive Bracket
  | array
  | object

def skipWithin : Nat → SkipPhase → List Bracket → List Char → Except Refusal (List Char)
  | 0, _, _, cs => .ok cs
  | fuel + 1, .value, open', cs =>
    match skipBlanks cs with
    | [] => stopPast .endOfValue []
    | 'n' :: rest => readWord ['u', 'l', 'l'] rest >>= skipWithin fuel .next open'
    | 't' :: rest => readWord ['r', 'u', 'e'] rest >>= skipWithin fuel .next open'
    | 'f' :: rest => readWord ['a', 'l', 's', 'e'] rest >>= skipWithin fuel .next open'
    | '-' :: rest => skipNumber rest >>= skipWithin fuel .next open'
    | '"' :: rest => skipChars rest >>= skipWithin fuel .next open'
    | '[' :: rest =>
      match skipBlanks rest with
      | [] => stopPast .endOfArray []
      | ']' :: rest => skipWithin fuel .next open' rest
      | rest => skipWithin fuel .value (.array :: open') rest
    | '\x7b' :: rest =>
      match skipBlanks rest with
      | [] => stopPast .endOfObject []
      | '\x7d' :: rest => skipWithin fuel .next open' rest
      | rest => skipWithin fuel .name (.object :: open') rest
    | c :: rest =>
      if Text.isDigit c then skipNumber (c :: rest) >>= skipWithin fuel .next open'
      else stopPast .valueExpected (c :: rest)
  | _ + 1, .next, [], cs => .ok cs
  | fuel + 1, .next, .array :: open', cs =>
    match skipBlanks cs with
    | [] => stopPast .endOfArray []
    | ',' :: rest => skipWithin fuel .value (.array :: open') rest
    | ']' :: rest => skipWithin fuel .next open' rest
    | rest => stopPast .arrayCommaExpected rest
  | fuel + 1, .next, .object :: open', cs =>
    match skipBlanks cs with
    | [] => stopPast .endOfObject []
    | ',' :: rest => skipWithin fuel .name (.object :: open') rest
    | '\x7d' :: rest => skipWithin fuel .next open' rest
    | rest => stopPast .objectCommaExpected rest
  | fuel + 1, .name, open', cs =>
    match skipBlanks cs with
    | [] => stopPast .endOfObject []
    | '"' :: rest => do
      let rest ← readColon (← skipChars rest)
      skipWithin fuel .value open' rest
    | rest => stopPast .nameExpected rest

def skipValue (cs : List Char) : Except Refusal (List Char) :=
  skipWithin (cs.length + 2) .value [] cs

def readWhole {α : Type} (value : Reader α) (source : String) : Except Error α :=
  match value source.toList with
  | .error refusal => .error (refusal.error source.toList)
  | .ok (x, rest) =>
    match skipBlanks rest with
    | [] => .ok x
    | rest => .error (Refusal.error ⟨.trailingCharacters, some ⟨rest, 1⟩⟩ source.toList)

def parse (source : String) : Except Error Json := readWhole (readValue depthLimit) source

end OriginRegistry.Json
