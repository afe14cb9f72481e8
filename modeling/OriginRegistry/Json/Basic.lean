import OriginRegistry.Decimal.Binary64

set_option autoImplicit false

namespace OriginRegistry

inductive Json
  | null
  | boolean (value : Bool)
  | integer (value : Int)
  | real (value : Decimal.Binary64)
  | text (value : String)
  | array (items : List Json)
  | object (members : List (String × Json))
  deriving Repr

namespace Json

def texts (values : List String) : Json := .array (values.map .text)

def member? (name : String) : Json → Option Json
  | .object members => members.lookup name
  | _ => none

def text? : Json → Option String
  | .text value => some value
  | _ => none

def boolean? : Json → Option Bool
  | .boolean value => some value
  | _ => none

def items? : Json → Option (List Json)
  | .array items => some items
  | _ => none

def texts? (v : Json) : Option (List String) := do (← v.items?).mapM text?

def largestInteger : Int := 0x7fffffffffffffff
def leastInteger : Int := -0x8000000000000000

def int64? : Json → Option Int64
  | .integer value =>
    if leastInteger ≤ value ∧ value ≤ largestInteger then some (Int64.ofInt value) else none
  | _ => none

def ofInt64 (n : Int64) : Json := .integer n.toInt

/-- Puts a member into members that are in the order of their names; an earlier one of that name goes. -/
def insertMember (name : String) (value : Json) : List (String × Json) → List (String × Json)
  | [] => [(name, value)]
  | m :: members =>
    if name < m.1 then (name, value) :: m :: members
    else if name = m.1 then (name, value) :: members
    else m :: insertMember name value members

def sortMembers (members : List (String × Json)) : List (String × Json) :=
  members.foldl (fun sorted m => insertMember m.1 m.2 sorted) []

end Json

end OriginRegistry
