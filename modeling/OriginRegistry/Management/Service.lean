import OriginRegistry.Directory
import OriginRegistry.Management.Error
import OriginRegistry.OriginStore.Basic
import OriginRegistry.PolicyStore.Basic
import OriginRegistry.Text.Blank

/-!
The management of origins. A request names its tenant by domain and its application by resource id; both are
resolved, its origins are read, and what it asks for is checked against the store's listing before the store is
told to change anything.
-/

set_option autoImplicit false

namespace OriginRegistry

/-- Puts a store into stores of ascending priority, after those of its own. -/
def placeStore {α : Type 1} (priority : α → Int32) (store : α) : List α → List α
  | [] => [store]
  | s :: stores =>
    if priority store < priority s then store :: s :: stores
    else s :: placeStore priority store stores

structure Management (σ : Type) where
  resolvers : Resolvers σ
  originStores : List (OriginStore σ) := []
  policyStores : List (PolicyStore σ) := []

namespace Management

variable {σ : Type}

def withOriginStore (m : Management σ) (store : OriginStore σ) : Management σ :=
  { m with originStores := placeStore OriginStore.priority store m.originStores }

def withPolicyStore (m : Management σ) (store : PolicyStore σ) : Management σ :=
  { m with policyStores := placeStore PolicyStore.priority store m.policyStores }

/-- The store of the highest priority, of several the one that was registered last. -/
def originStore (m : Management σ) : Except ManagementError (OriginStore σ) :=
  match m.originStores.getLast? with
  | some store => .ok store
  | none => .error (.noStore .origins)

def policyStore (m : Management σ) : Except ManagementError (PolicyStore σ) :=
  match m.policyStores.getLast? with
  | some store => .ok store
  | none => .error (.noStore .policies)

variable (m : Management σ)

def resolveTenant (domain : String) : Action σ ManagementError TenantId := do
  if Text.blank domain then throw (.invalidTenantDomain domain)
  match ← (m.resolvers.tenant domain).mapError (.storage domain) with
  | some id => return id
  | none => throw (.invalidTenantDomain domain)

def resolveApplication (domain resourceId : String) : Action σ ManagementError ApplicationId := do
  if Text.blank resourceId then throw (.invalidApplicationId resourceId)
  match ← (m.resolvers.application domain resourceId).mapError (.storage resourceId) with
  | some application => return application.id
  | none => throw (.invalidApplicationId resourceId)

def readOrigins (origins : List String) : Except ManagementError (List Origin) :=
  (Origin.parseAll origins).mapError .invalidOrigin

def ask {α : Type} (key : String) (request : OriginRequest α) : Action σ ManagementError α :=
  ExceptT.mk fun s =>
    match m.originStore with
    | .error e => (.error e, s)
    | .ok store => ((store.answer request).mapError (.storage key)).run s

def askPolicy {α : Type} (key : String) (request : PolicyRequest α) : Action σ ManagementError α :=
  ExceptT.mk fun s =>
    match m.policyStore with
    | .error e => (.error e, s)
    | .ok store => ((store.answer request).mapError (.configuration key)).run s

def checkNew (domain : String) (existing : List RegisteredOrigin) (candidates : List Origin) :
    Except ManagementError Unit :=
  match candidates.find? fun c => existing.any fun o => o.origin = c.text with
  | some c => .error (.alreadyRegistered domain c.text)
  | none => .ok ()

def internalIds (domain : String) (existing : List RegisteredOrigin) :
    List String → Except ManagementError (List OriginId)
  | [] => .ok []
  | id :: ids =>
    match existing.find? fun o => o.externalId.val = id with
    | none => .error (.notPresent domain id)
    | some o => (internalIds domain existing ids).map (o.id :: ·)

def tenantOrigins (domain : String) : Action σ ManagementError (List RegisteredOrigin) := do
  let tenant ← m.resolveTenant domain
  m.ask domain (.byTenant tenant)

def applicationOrigins (domain resourceId : String) :
    Action σ ManagementError (List RegisteredOrigin) := do
  let tenant ← m.resolveTenant domain
  let application ← m.resolveApplication domain resourceId
  m.ask domain (.byApplication tenant application)

def originApplications (id : String) : Action σ ManagementError (List Application) := do
  match ← m.ask id (.byExternalId ⟨id⟩) with
  | some o => return o.applications
  | none => throw (.storage id (.notFound "CORS origin" id))

def setTenantOrigins (domain : String) (origins : List String) : Action σ ManagementError Unit := do
  let tenant ← m.resolveTenant domain
  let origins ← Action.answer (readOrigins origins)
  m.ask domain (.setTenant tenant origins)

def setApplicationOrigins (domain resourceId : String) (origins : List String) :
    Action σ ManagementError Unit := do
  let tenant ← m.resolveTenant domain
  let application ← m.resolveApplication domain resourceId
  let origins ← Action.answer (readOrigins origins)
  m.ask domain (.setApplication tenant application origins)

def addTenantOrigins (domain : String) (origins : List String) : Action σ ManagementError Unit := do
  let tenant ← m.resolveTenant domain
  let origins ← Action.answer (readOrigins origins)
  let existing ← m.ask domain (.byTenant tenant)
  Action.answer (checkNew domain existing origins)
  m.ask domain (.addTenant tenant origins)

def addApplicationOrigins (domain resourceId : String) (origins : List String) :
    Action σ ManagementError Unit := do
  let tenant ← m.resolveTenant domain
  let application ← m.resolveApplication domain resourceId
  let origins ← Action.answer (readOrigins origins)
  let existing ← m.ask domain (.byApplication tenant application)
  Action.answer (checkNew domain existing origins)
  m.ask domain (.addApplication tenant application origins)

def deleteTenantOrigins (domain : String) (ids : List String) : Action σ ManagementError Unit := do
  let tenant ← m.resolveTenant domain
  let existing ← m.ask domain (.byTenant tenant)
  let ids ← Action.answer (internalIds domain existing ids)
  m.ask domain (.deleteTenant tenant ids)

def deleteApplicationOrigins (domain resourceId : String) (ids : List String) :
    Action σ ManagementError Unit := do
  let tenant ← m.resolveTenant domain
  let application ← m.resolveApplication domain resourceId
  let existing ← m.ask domain (.byApplication tenant application)
  let ids ← Action.answer (internalIds domain existing ids)
  m.ask domain (.deleteApplication tenant application ids)

def policy (domain : String) : Action σ ManagementError Policy := do
  let tenant ← m.resolveTenant domain
  m.askPolicy domain (.policy tenant)

def setPolicy (domain : String) (p : Policy) : Action σ ManagementError Unit := do
  let tenant ← m.resolveTenant domain
  m.askPolicy domain (.setPolicy tenant p)

end Management

end OriginRegistry
