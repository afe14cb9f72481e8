import OriginRegistry.Json.Reader

/-!
Shapes of values. A value that has a shape is put into a normal form: an object with all fields of a record in
their order, with defaults for those that were left out. A record may also be written as the array of its
fields. Values are checked as they are (`decode`), or while their text is read (`read`), which sees a wrong
shape before a fault of the text behind it.
-/

set_option autoImplicit false

namespace OriginRegistry.Json

inductive Absence
  | refused
  | null
  | default (value : Json)

inductive Schema
  | integer
  | boolean
  | text
  /-- A text that `normal` puts into one form, or refuses. -/
  | format (expected : String) (normal : String → Except String String)
  | optionalText
  /-- One of some names, or an object with one of them and nothing. -/
  | choice (names : List String)
  | list (item : Schema)
  | record (title : String) (fields : List (String × Schema × Absence))
  /-- Records that are told apart by the field `tag`; a record of one unnamed text cannot be told apart. -/
  | variants (title tag : String) (cases : List (String × Schema))

namespace Schema

abbrev Fields := List (String × Schema × Absence)

def expected : Schema → String
  | .integer => "i64"
  | .boolean => "a boolean"
  | .text => "a string"
  | .format expected _ => expected
  | .optionalText => "a string"
  | .choice _ => "string or map"
  | .list _ => "a sequence"
  | .record title _ => title
  | .variants title _ _ => title

end Schema

def found : Json → Found
  | .null => .null
  | .boolean value => .boolean value
  | .integer value => .integer value
  | .real value => .real value
  | .text value => .text value
  | .array _ => .array
  | .object _ => .object

def checkInteger (value : Int) : Except Fault Json :=
  if largestInteger < value then .error (.invalidValue (.integer value) Schema.integer.expected)
  else .ok (.integer value)

def fieldsText (title : String) (count : Nat) : String :=
  if count = 1 then s!"{title} with 1 element" else s!"{title} with {count} elements"

def completeRecord (values : List (String × Json)) : Schema.Fields → Except Fault (List (String × Json))
  | [] => .ok []
  | (name, _, absence) :: fields => do
    let value ←
      match values.lookup name, absence with
      | some value, _ => .ok value
      | none, .refused => .error (.missingField name)
      | none, .null => .ok .null
      | none, .default value => .ok value
    let rest ← completeRecord values fields
    .ok ((name, value) :: rest)

def completeTuple (title : String) (count index : Nat) :
    Schema.Fields → Except Fault (List (String × Json))
  | [] => .ok []
  | (name, _, .default value) :: fields => do
    let rest ← completeTuple title count (index + 1) fields
    .ok ((name, value) :: rest)
  | _ :: _ => .error (.invalidLength index (fieldsText title count))

def tagged (tag name : String) : Json → Json
  | .object members => .object ((tag, .text name) :: members)
  | value => .array [.text name, value]

abbrev Surplus := Nat → Nat → Fault

mutual

def decode (surplus : Surplus) (s : Schema) : Json → Except Fault Json
  | .object members =>
    match s with
    | .record _ fields => do
      let values ← decodeMembers surplus fields [] members
      (completeRecord values fields).map .object
    | .choice names =>
      match members with
      | [(name, value)] =>
        if !names.contains name then .error (.unknownVariant name names)
        else
          match value with
          | .null => .ok (.text name)
          | .object [] => .ok (.text name)
          | value => .error (.invalidType value.found "unit")
      | _ => .error (.invalidValue .object "map with a single key")
    | s => .error (.invalidType .object s.expected)
  | .array items =>
    match s with
    | .list item => (decodeItems surplus item items).map .array
    | .record title fields => (decodeTuple surplus title fields.length 0 fields items).map .object
    | s => .error (.invalidType .array s.expected)
  | .null =>
    match s with
    | .optionalText => .ok .null
    | s => .error (.invalidType .null s.expected)
  | .boolean value =>
    match s with
    | .boolean => .ok (.boolean value)
    | s => .error (.invalidType (.boolean value) s.expected)
  | .integer value =>
    match s with
    | .integer => checkInteger value
    | s => .error (.invalidType (.integer value) s.expected)
  | .real value => .error (.invalidType (.real value) s.expected)
  | .text value =>
    match s with
    | .text => .ok (.text value)
    | .optionalText => .ok (.text value)
    | .format _ normal =>
      match normal value with
      | .ok value => .ok (.text value)
      | .error reason => .error (.malformed reason)
    | .choice names =>
      if names.contains value then .ok (.text value) else .error (.unknownVariant value names)
    | s => .error (.invalidType (.text value) s.expected)

def decodeItems (surplus : Surplus) (s : Schema) : List Json → Except Fault (List Json)
  | [] => .ok []
  | item :: items => do
    let x ← decode surplus s item
    let xs ← decodeItems surplus s items
    .ok (x :: xs)

def decodeMembers (surplus : Surplus) (fields : Schema.Fields) (values : List (String × Json)) :
    List (String × Json) → Except Fault (List (String × Json))
  | [] => .ok values
  | (name, value) :: members =>
    match fields.lookup name with
    | none => decodeMembers surplus fields values members
    | some (s, _) =>
      if (values.lookup name).isSome then .error (.duplicateField name)
      else do
        let value ← decode surplus s value
        decodeMembers surplus fields (values ++ [(name, value)]) members

def decodeTuple (surplus : Surplus) (title : String) (count index : Nat) (fields : Schema.Fields) :
    List Json → Except Fault (List (String × Json))
  | [] => completeTuple title count index fields
  | item :: items =>
    match fields with
    | [] => .error (surplus index (index + (item :: items).length))
    | (name, s, _) :: fields => do
      let value ← decode surplus s item
      let rest ← decodeTuple surplus title count (index + 1) fields items
      .ok ((name, value) :: rest)

end

def decodeDictionary (s : Schema) (value : Json) : Except Error Json :=
  let value :=
    match value with
    | .object members => .object (sortMembers members)
    | value => value
  (decode (fun _ total => .invalidLength total "fewer elements in array") s value).mapError
    fun fault => ⟨fault, none⟩

def decodeContent (s : Schema) (value : Json) : Except Fault Json :=
  decode (fun count total => .invalidLength total
    (if count = 1 then "1 element in sequence" else s!"{count} elements in sequence")) s value

/-- Refuses what comes next, which is not what was expected. A scalar is read for that. -/
def refuseNext {α : Type} (expected : String) (cs : List Char) : Except Refusal α :=
  match skipBlanks cs with
  | '[' :: rest => stop (.invalidType .array expected) ('[' :: rest)
  | '\x7b' :: rest => stop (.invalidType .object expected) ('\x7b' :: rest)
  | rest =>
    match readScalar rest with
    | .error refusal => .error refusal
    | .ok (value, rest) => stop (.invalidType value.found expected) rest

def readChecked (s : Schema) : Reader Json := fun cs =>
  match skipBlanks cs with
  | '[' :: rest => refuseNext s.expected ('[' :: rest)
  | '\x7b' :: rest => refuseNext s.expected ('\x7b' :: rest)
  | rest =>
    match readScalar rest with
    | .error refusal => .error refusal
    | .ok (value, rest) =>
      match decodeContent s value with
      | .ok value => .ok (value, rest)
      | .error fault => stop fault rest

def readFields (fields : Schema.Fields) (read : Schema → Reader Json) :
    Nat → Bool → List (String × Json) → Reader (List (String × Json))
  | 0, _, _, rest => stop .endOfObject rest
  | fuel + 1, first, values, cs =>
    match nextName? first cs with
    | .error refusal => .error refusal
    | .ok none =>
      match completeRecord values fields with
      | .error fault => stop fault (afterObject cs)
      | .ok values => (closeObject cs).map fun rest => (values, rest)
    | .ok (some rest) => do
      let (name, rest) ← readText rest
      match fields.lookup name with
      | none =>
        let rest ← skipValue (← readColon rest)
        readFields fields read fuel false values rest
      | some (s, _) =>
        if (values.lookup name).isSome then stop (.duplicateField name) (afterObject rest)
        else
          let (value, rest) ← read s (← readColon rest)
          readFields fields read fuel false (values ++ [(name, value)]) rest

def readTuple (title : String) (count : Nat) (read : Schema → Reader Json) :
    Nat → Schema.Fields → Reader (List (String × Json))
  | _, [], cs => (closeArray cs).map fun rest => ([], rest)
  | index, (name, s, absence) :: fields, cs =>
    match nextItem? (index = 0) cs with
    | .error refusal => .error refusal
    | .ok none =>
      match completeTuple title count index ((name, s, absence) :: fields) with
      | .error fault => stop fault (afterArray cs)
      | .ok values => (closeArray cs).map fun rest => (values, rest)
    | .ok (some rest) => do
      let (value, rest) ← read s rest
      let (values, rest) ← readTuple title count read (index + 1) fields rest
      .ok ((name, value) :: values, rest)

def readCase (cases : List (String × Schema)) : Reader String := fun cs =>
  match skipBlanks cs with
  | '"' :: rest => do
    let (name, rest) ← readText rest
    if (cases.lookup name).isSome then .ok (name, rest)
    else stop (.unknownVariant name (cases.map Prod.fst)) rest
  | rest => refuseNext "variant identifier" rest

def readTagged (tag : String) (cases : List (String × Schema)) (value : Reader Json) :
    Nat → Bool → Option String → Reader (Option String × List (String × Json))
  | 0, _, _, rest => stop .endOfObject rest
  | fuel + 1, first, case?, cs =>
    match nextName? first cs with
    | .error refusal => .error refusal
    | .ok none =>
      match case? with
      | none => stop (.missingField tag) (afterObject cs)
      | some case => (closeObject cs).map fun rest => ((some case, []), rest)
    | .ok (some rest) => do
      let (name, rest) ← readText rest
      if name = tag then
        if case?.isSome then stop (.duplicateField tag) (afterObject rest)
        else
          let (case, rest) ← readCase cases (← readColon rest)
          readTagged tag cases value fuel false (some case) rest
      else
        let (x, rest) ← value (← readColon rest)
        let ((case?, members), rest) ← readTagged tag cases value fuel false case? rest
        .ok ((case?, (name, x) :: members), rest)

def checkCase (tag : String) (cases : List (String × Schema)) (case : String) (content : Json) :
    Reader Json := fun rest =>
  match cases.lookup case with
  | none => .error ⟨.unknownVariant case (cases.map Prod.fst), none⟩
  | some s =>
    match decodeContent s content with
    | .ok value => .ok (tagged tag case value, rest)
    | .error fault => .error ⟨fault, none⟩

def readVariants (title tag : String) (cases : List (String × Schema)) (value : Reader Json) :
    Reader Json := fun cs =>
  match skipBlanks cs with
  | '\x7b' :: rest => do
    let ((case?, members), rest) ← readTagged tag cases value (rest.length + 1) true none rest
    match case? with
    | none => stop (.missingField tag) rest
    | some case => checkCase tag cases case (.object members) rest
  | '[' :: rest => do
    match ← nextItem? true rest with
    | none => stop (.missingField tag) (afterArray rest)
    | some rest =>
      let (case, rest) ← readCase cases rest
      let (items, rest) ← readItems value (rest.length + 1) false rest
      checkCase tag cases case (.array items) rest
  | rest => refuseNext title rest

def read : Nat → Schema → Reader Json
  | 0, s, cs =>
    match skipBlanks cs with
    | '[' :: rest =>
      match s with
      | .list _ | .record _ _ | .variants _ _ _ => stopPast .tooDeep ('[' :: rest)
      | s => readChecked s ('[' :: rest)
    | '\x7b' :: rest =>
      match s with
      | .record _ _ | .variants _ _ _ => stopPast .tooDeep ('\x7b' :: rest)
      | s => readChecked s ('\x7b' :: rest)
    | rest => readChecked s rest
  | depth + 1, s, cs =>
    match s with
    | .list item =>
      match skipBlanks cs with
      | '[' :: rest =>
        (readItems (read depth item) (rest.length + 1) true rest).map fun (items, rest) =>
          (.array items, rest)
      | rest => refuseNext s.expected rest
    | .record title fields =>
      match skipBlanks cs with
      | '\x7b' :: rest =>
        (readFields fields (read depth) (rest.length + 1) true [] rest).map fun (values, rest) =>
          (.object values, rest)
      | '[' :: rest =>
        (readTuple title fields.length (read depth) 0 fields rest).map fun (values, rest) =>
          (.object values, rest)
      | rest => refuseNext title rest
    | .variants title tag cases => readVariants title tag cases (readValue depth) cs
    | s => readChecked s cs

def parseAs (s : Schema) (source : String) : Except Error Json := readWhole (read depthLimit s) source

end OriginRegistry.Json
