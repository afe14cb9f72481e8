import OriginRegistry.Configuration.Basic
import OriginRegistry.Directory
import OriginRegistry.UrlList.Basic

set_option autoImplicit false

namespace OriginRegistry

inductive UrlActivity
  | getting
  | updating
  | adding
  | deleting
  deriving DecidableEq, Repr

def UrlActivity.describe : UrlActivity → String
  | .getting => "getting CORS URLs"
  | .updating => "updating CORS URLs"
  | .adding => "adding CORS URLs"
  | .deleting => "deleting CORS URLs"

inductive UrlError
  | invalidTenantDomain (domain : String)
  | noUrls (domain : String)
  | alreadyRegistered (domain url : String)
  | notRegistered (domain url : String)
  | configuration (activity : UrlActivity) (source : ConfigurationError)
  | storage (domain : String) (source : StorageError)
  deriving DecidableEq, Repr

namespace UrlError

def message : UrlError → String
  | .invalidTenantDomain domain => s!"Invalid tenant domain: {domain}"
  | .noUrls domain => s!"Tenant {domain} does not have any CORS URLs"
  | .alreadyRegistered domain url => s!"Tenant {domain} already has {url} as a CORS URL"
  | .notRegistered domain url => s!"Tenant {domain} doesn't have {url} as a CORS URL"
  | .configuration activity source => s!"Error while {activity.describe}: {source.message}"
  | .storage domain source => s!"Error while resolving tenant {domain}: {source.message}"

def isClientError : UrlError → Bool
  | .configuration _ _ | .storage _ _ => false
  | _ => true

end UrlError

namespace UrlList

def typeName : String := "CORS_URL"

def typeDraft : ResourceTypeDraft := ⟨typeName, some "CORS allowed URLs"⟩

def resourceName : String := "corsUrls"

end UrlList

structure UrlService (σ : Type) where
  tenant : String → Action σ StorageError (Option TenantId)
  manager : ConfigurationManager σ

namespace UrlService

open UrlList

variable {σ : Type} (s : UrlService σ)

def resolve (domain : String) : Action σ UrlError TenantId := do
  match ← (s.tenant domain).mapError (.storage domain) with
  | some id => return id
  | none => throw (.invalidTenantDomain domain)

def ensureType (activity : UrlActivity) : Action σ UrlError Unit := do
  let _ ← (s.manager.ensureType typeDraft).mapError (.configuration activity)

def resource? (tenant : TenantId) (activity : UrlActivity) : Action σ UrlError (Option Resource) :=
  (s.manager.resource? tenant typeName resourceName).mapError (.configuration activity)

def replace (tenant : TenantId) (urls : List String) (activity : UrlActivity) :
    Action σ UrlError Unit := do
  let _ ← (s.manager.answer (.replace tenant typeName (draft resourceName urls))).mapError
    (.configuration activity)

def get (domain : String) : Action σ UrlError (List String) := do
  let tenant ← s.resolve domain
  match ← s.resource? tenant .getting with
  | some r => return ofResource r
  | none => throw (.noUrls domain)

def set (domain : String) (urls : List String) : Action σ UrlError Unit := do
  let tenant ← s.resolve domain
  s.ensureType .updating
  s.replace tenant urls .updating

def add (domain : String) (urls : List String) : Action σ UrlError Unit := do
  let tenant ← s.resolve domain
  s.ensureType .adding
  let urls := distinct urls
  match ← s.resource? tenant .adding with
  | none => s.replace tenant urls .adding
  | some r =>
    match urls.find? fun url => (ofResource r).contains url with
    | some url => throw (.alreadyRegistered domain url)
    | none =>
      urls.forM fun url => do
        let _ ← (s.manager.answer (.addAttribute tenant typeName resourceName (entry url))).mapError
          (.configuration .adding)

def addOne (domain url : String) : Action σ UrlError Unit := s.add domain [url]

def delete (domain : String) (urls : List String) : Action σ UrlError Unit := do
  let tenant ← s.resolve domain
  let urls := distinct urls
  match ← s.resource? tenant .deleting with
  | none => throw (.noUrls domain)
  | some r =>
    match urls.find? fun url => !(ofResource r).contains url with
    | some url => throw (.notRegistered domain url)
    | none =>
      urls.forM fun url =>
        (s.manager.answer (.deleteAttribute tenant typeName resourceName (key url))).mapError
          (.configuration .deleting)

def deleteOne (domain url : String) : Action σ UrlError Unit := s.delete domain [url]

end UrlService

end OriginRegistry
