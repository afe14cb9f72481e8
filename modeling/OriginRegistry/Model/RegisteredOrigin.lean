import OriginRegistry.Model.Id

set_option autoImplicit false

namespace OriginRegistry

structure Application where
  id : ApplicationId
  resourceId : String
  name : String
  deriving DecidableEq, Repr

/-- An origin in the registry. One of tenant level applies to every application of the tenant. -/
structure RegisteredOrigin where
  id : OriginId
  externalId : ExternalId
  origin : String
  tenantLevel : Bool
  applications : List Application
  deriving DecidableEq, Repr

def RegisteredOrigin.isAssociatedWith (o : RegisteredOrigin) (application : ApplicationId) : Bool :=
  o.applications.any fun a => a.id = application

def Application.codec : Json.Codec Application :=
  { schema := .record "struct CorsApplication"
      [("id", .integer, .refused), ("resource_id", .text, .refused), ("name", .text, .refused)]
    ofJson? := fun v => do
      some
        { id := ← v.field? ApplicationId.codec "id"
          resourceId := ← v.field? Json.textCodec "resource_id"
          name := ← v.field? Json.textCodec "name" }
    toJson := fun a => .object
      [("id", ApplicationId.codec.toJson a.id), ("resource_id", .text a.resourceId), ("name", .text a.name)] }

def RegisteredOrigin.codec : Json.Codec RegisteredOrigin :=
  { schema := .record "struct CorsOrigin"
      [("id", .integer, .refused), ("external_id", .text, .refused), ("origin", .text, .refused),
        ("tenant_level", .boolean, .refused),
        ("associated_applications", .list Application.codec.schema, .default (.array []))]
    ofJson? := fun v => do
      some
        { id := ← v.field? OriginId.codec "id"
          externalId := ← v.field? ExternalId.codec "external_id"
          origin := ← v.field? Json.textCodec "origin"
          tenantLevel := ← v.member? "tenant_level" >>= Json.boolean?
          applications := ← v.field? Application.codec.list "associated_applications" }
    toJson := fun o => .object
      [("id", OriginId.codec.toJson o.id), ("external_id", ExternalId.codec.toJson o.externalId),
        ("origin", .text o.origin), ("tenant_level", .boolean o.tenantLevel),
        ("associated_applications", Application.codec.list.toJson o.applications)] }

end OriginRegistry
