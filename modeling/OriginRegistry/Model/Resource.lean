import OriginRegistry.Json.Codec
import OriginRegistry.Moment

set_option autoImplicit false

namespace OriginRegistry

structure Attribute where
  key : String
  value : String
  deriving DecidableEq, Repr

structure ResourceType where
  id : String
  name : String
  description : Option String
  deriving DecidableEq, Repr

structure ResourceTypeDraft where
  name : String
  description : Option String
  deriving DecidableEq, Repr

/-- A stored resource. Its attributes are in the order in which they were added. -/
structure Resource where
  id : String
  name : String
  resourceType : String
  attributes : List Attribute
  createdAt : Moment
  lastModified : Moment
  deriving DecidableEq, Repr

structure ResourceDraft where
  name : String
  attributes : List Attribute
  deriving DecidableEq, Repr

namespace Resource

def values (r : Resource) : List String := r.attributes.map Attribute.value

def value? (r : Resource) (key : String) : Option String :=
  (r.attributes.find? fun a => a.key = key).map Attribute.value

def isModified (r : Resource) : Bool := r.createdAt ≠ r.lastModified

end Resource

def Attribute.codec : Json.Codec Attribute :=
  { schema := .record "struct Attribute" [("key", .text, .refused), ("value", .text, .refused)]
    ofJson? := fun v => do
      some
        { key := ← v.field? Json.textCodec "key"
          value := ← v.field? Json.textCodec "value" }
    toJson := fun a => .object [("key", .text a.key), ("value", .text a.value)] }

def optionalMember (name : String) : Option String → List (String × Json)
  | none => []
  | some value => [(name, .text value)]

def optionalText? (v : Json) (name : String) : Option (Option String) :=
  match v.member? name with
  | some .null => some none
  | some (.text value) => some (some value)
  | _ => none

def ResourceType.codec : Json.Codec ResourceType :=
  { schema := .record "struct ResourceType"
      [("id", .text, .refused), ("name", .text, .refused), ("description", .optionalText, .null)]
    ofJson? := fun v => do
      some
        { id := ← v.field? Json.textCodec "id"
          name := ← v.field? Json.textCodec "name"
          description := ← optionalText? v "description" }
    toJson := fun t => .object
      ([("id", .text t.id), ("name", .text t.name)] ++ optionalMember "description" t.description) }

def ResourceTypeDraft.codec : Json.Codec ResourceTypeDraft :=
  { schema := .record "struct ResourceTypeAdd"
      [("name", .text, .refused), ("description", .optionalText, .null)]
    ofJson? := fun v => do
      some
        { name := ← v.field? Json.textCodec "name"
          description := ← optionalText? v "description" }
    toJson := fun t => .object
      (("name", .text t.name) :: optionalMember "description" t.description) }

def Moment.codec : Json.Codec Moment :=
  { schema := .format "an RFC 3339 formatted date and time string" fun s =>
      match Moment.ofText s with
      | .ok m => .ok m.text
      | .error fault => .error fault.message
    ofJson? := fun v => do
      match Moment.ofText (← v.text?) with
      | .ok m => some m
      | .error _ => none
    toJson := fun m => .text m.text }

def Resource.codec : Json.Codec Resource :=
  { schema := .record "struct Resource"
      [("id", .text, .refused), ("name", .text, .refused), ("resource_type", .text, .refused),
        ("attributes", .list Attribute.codec.schema, .refused),
        ("created_at", Moment.codec.schema, .refused), ("last_modified", Moment.codec.schema, .refused)]
    ofJson? := fun v => do
      some
        { id := ← v.field? Json.textCodec "id"
          name := ← v.field? Json.textCodec "name"
          resourceType := ← v.field? Json.textCodec "resource_type"
          attributes := ← v.field? Attribute.codec.list "attributes"
          createdAt := ← v.field? Moment.codec "created_at"
          lastModified := ← v.field? Moment.codec "last_modified" }
    toJson := fun r => .object
      [("id", .text r.id), ("name", .text r.name), ("resource_type", .text r.resourceType),
        ("attributes", Attribute.codec.list.toJson r.attributes),
        ("created_at", Moment.codec.toJson r.createdAt),
        ("last_modified", Moment.codec.toJson r.lastModified)] }

def ResourceDraft.codec : Json.Codec ResourceDraft :=
  { schema := .record "struct ResourceAdd"
      [("name", .text, .refused), ("attributes", .list Attribute.codec.schema, .default (.array []))]
    ofJson? := fun v => do
      some
        { name := ← v.field? Json.textCodec "name"
          attributes := ← v.field? Attribute.codec.list "attributes" }
    toJson := fun r => .object
      [("name", .text r.name), ("attributes", Attribute.codec.list.toJson r.attributes)] }

end OriginRegistry
