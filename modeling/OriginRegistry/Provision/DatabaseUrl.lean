import OriginRegistry.Text.Percent
import OriginRegistry.Text.Quoted
import OriginRegistry.Text.Split

set_option autoImplicit false

namespace OriginRegistry

structure DatabaseUrl where
  name : String
  inMemory : Bool
  readOnly : Bool := false
  create : Bool := false
  immutable : Bool := false
  /-- The way to files, if not the usual one. -/
  fileSystem : Option String := none
  deriving DecidableEq, Repr

namespace DatabaseUrl

inductive Fault
  | encoding (e : Text.BrokenBytes)
  | unknownValue (key value : String)
  | unknownKey (key : String)
  deriving DecidableEq, Repr

def Fault.message : Fault → String
  | .encoding e => e.message
  | .unknownValue key value => s!"unknown value {Text.quoted value} for `{key}`"
  | .unknownKey key => s!"unknown query parameter `{key}` while parsing connection URL"

/-- Drops the scheme, however often it is written. -/
def dropScheme : List Char → List Char
  | 's' :: 'q' :: 'l' :: 'i' :: 't' :: 'e' :: ':' :: cs => dropScheme cs
  | cs => cs

def dropSlashes : List Char → List Char
  | '/' :: '/' :: cs => dropSlashes cs
  | cs => cs

def meant (cs : List Char) : String :=
  String.ofList (Text.percentDecodeLossy (cs.map fun c => if c = '+' then ' ' else c))

def splitFirst (mark : Char) (cs : List Char) : List Char × List Char :=
  (cs.takeWhile (· ≠ mark), (cs.dropWhile (· ≠ mark)).drop 1)

def parameters (cs : List Char) : List (String × String) :=
  ((Text.splitOn '&' cs).filter fun part => !part.isEmpty).map fun part =>
    let (key, value) := splitFirst '=' part
    (meant key, meant value)

/-- What a parameter asks for. How a cache is shared makes no difference for a single program. -/
def withParameter (u : DatabaseUrl) : String × String → Except Fault DatabaseUrl
  | ("mode", "ro") => .ok { u with readOnly := true }
  | ("mode", "rw") => .ok u
  | ("mode", "rwc") => .ok { u with create := true }
  | ("mode", "memory") => .ok { u with inMemory := true }
  | ("cache", "private") => .ok u
  | ("cache", "shared") => .ok u
  | ("immutable", "true") => .ok { u with immutable := true }
  | ("immutable", "1") => .ok { u with immutable := true }
  | ("immutable", "false") => .ok { u with immutable := false }
  | ("immutable", "0") => .ok { u with immutable := false }
  | ("vfs", name) => .ok { u with fileSystem := some name }
  | (key, value) =>
    if key = "mode" ∨ key = "cache" ∨ key = "immutable" then .error (.unknownValue key value)
    else .error (.unknownKey key)

def ofName (cs : List Char) : Except Fault DatabaseUrl :=
  if cs = ":memory:".toList then .ok { name := "", inMemory := true }
  else
    match Text.percentDecode cs with
    | .ok name => .ok { name := String.ofList name, inMemory := false }
    | .error e => .error (.encoding e)

def parse (s : String) : Except Fault DatabaseUrl := do
  let (name, query) := splitFirst '?' (dropSlashes (dropScheme s.toList))
  (parameters query).foldlM withParameter (← ofName name)

end DatabaseUrl

end OriginRegistry
