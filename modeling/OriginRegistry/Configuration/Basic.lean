import OriginRegistry.Action
import OriginRegistry.Database.Error
import OriginRegistry.Json.Fault
import OriginRegistry.Model.Id
import OriginRegistry.Model.Resource

set_option autoImplicit false

namespace OriginRegistry

inductive ConfigurationError
  | typeMissing (name : String)
  | typeExists (name : String)
  | resourceMissing (resourceType name : String)
  | attributeExists (resource key : String)
  | attributeMissing (resource key : String)
  | database (e : DatabaseError)
  | unreadable (e : Json.Error)
  deriving DecidableEq, Repr

def ConfigurationError.message : ConfigurationError → String
  | .typeMissing name => s!"Resource type {name} does not exist"
  | .typeExists name => s!"Resource type {name} already exists"
  | .resourceMissing resourceType name => s!"Resource {name} of type {resourceType} does not exist"
  | .attributeExists resource key => s!"Attribute {key} already exists in resource {resource}"
  | .attributeMissing resource key => s!"Attribute {key} does not exist in resource {resource}"
  | .database e => s!"Database error: {e.message}"
  | .unreadable e => s!"Invalid attribute value: {e.message}"

inductive ConfigurationRequest : Type → Type
  | type (name : String) : ConfigurationRequest ResourceType
  | addType (draft : ResourceTypeDraft) : ConfigurationRequest ResourceType
  /-- Nothing when the type exists and the tenant has no such resource. -/
  | resource (tenant : TenantId) (resourceType name : String) : ConfigurationRequest (Option Resource)
  | replace (tenant : TenantId) (resourceType : String) (draft : ResourceDraft) :
      ConfigurationRequest Resource
  | addAttribute (tenant : TenantId) (resourceType name : String) (entry : Attribute) :
      ConfigurationRequest Attribute
  | deleteAttribute (tenant : TenantId) (resourceType name key : String) : ConfigurationRequest Unit

inductive ConfigurationMethod
  | type
  | addType
  | resource
  | replace
  | addAttribute
  | deleteAttribute
  deriving DecidableEq, Repr

def ConfigurationRequest.method {α : Type} : ConfigurationRequest α → ConfigurationMethod
  | .type _ => .type
  | .addType _ => .addType
  | .resource _ _ _ => .resource
  | .replace _ _ _ => .replace
  | .addAttribute _ _ _ _ => .addAttribute
  | .deleteAttribute _ _ _ _ => .deleteAttribute

structure ConfigurationManager (σ : Type) where
  answer : {α : Type} → ConfigurationRequest α → Action σ ConfigurationError α

namespace ConfigurationManager

variable {σ τ : Type}

def zoom (get : τ → σ) (put : σ → τ → τ) (m : ConfigurationManager σ) : ConfigurationManager τ :=
  { answer := fun request => (m.answer request).zoom get put }

def failing (fault? : ConfigurationMethod → Option ConfigurationError) (m : ConfigurationManager σ) :
    ConfigurationManager σ :=
  { answer := fun request =>
      match fault? request.method with
      | some e => Action.answer (.error e)
      | none => m.answer request }

def ensureType (m : ConfigurationManager σ) (draft : ResourceTypeDraft) :
    Action σ ConfigurationError ResourceType :=
  ExceptT.mk fun s =>
    match (m.answer (.type draft.name)).run s with
    | (.error (.typeMissing _), s) => (m.answer (.addType draft)).run s
    | other => other

def resource? (m : ConfigurationManager σ) (tenant : TenantId) (resourceType name : String) :
    Action σ ConfigurationError (Option Resource) :=
  ExceptT.mk fun s =>
    match (m.answer (.resource tenant resourceType name)).run s with
    | (.error (.typeMissing _), s) => (.ok none, s)
    | other => other

end ConfigurationManager

end OriginRegistry
