import OriginRegistry.Json.Printer
import OriginRegistry.Json.Schema

set_option autoImplicit false

namespace OriginRegistry.Json

structure Decoder (α : Type) where
  schema : Schema
  ofJson? : Json → Option α

namespace Decoder

variable {α : Type}

def interpret (d : Decoder α) (v : Json) : Except Error α :=
  match d.ofJson? v with
  | some x => .ok x
  | none => .error ⟨.invalidType v.found d.schema.expected, none⟩

def parse (d : Decoder α) (source : String) : Except Error α :=
  parseAs d.schema source >>= d.interpret

def ofDictionary (d : Decoder α) (v : Json) : Except Error α :=
  decodeDictionary d.schema v >>= d.interpret

end Decoder

structure Codec (α : Type) extends Decoder α where
  toJson : α → Json

def Codec.print {α : Type} (c : Codec α) (x : α) : String := (c.toJson x).print

def Codec.wrap {α β : Type} (c : Codec α) (mk : α → β) (val : β → α) : Codec β :=
  { schema := c.schema
    ofJson? := fun v => (c.ofJson? v).map mk
    toJson := fun x => c.toJson (val x) }

def int64Codec : Codec Int64 := { schema := .integer, ofJson? := int64?, toJson := ofInt64 }

def textCodec : Codec String := { schema := .text, ofJson? := text?, toJson := .text }

def Codec.list {α : Type} (c : Codec α) : Codec (List α) :=
  { schema := .list c.schema
    ofJson? := fun v => do (← v.items?).mapM c.ofJson?
    toJson := fun xs => .array (xs.map c.toJson) }

def field? {α : Type} (c : Codec α) (v : Json) (name : String) : Option α :=
  v.member? name >>= c.ofJson?

end OriginRegistry.Json
