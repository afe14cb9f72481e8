import OriginRegistry.Proofs.Management.Checks

/-!
# What is said to a store

The management is run beside a record of all that is said to its stores, whatever these answer and whoever resolves
tenants and applications. A store is asked once at most, and then told to change something once at most; it is told
only what every check let through, and nothing is said to it for a request that does not resolve.
-/

set_option autoImplicit false

namespace OriginRegistry

inductive OriginCall
  | listing (request : OriginRequest (List RegisteredOrigin)) (answered : Except StorageError (List RegisteredOrigin))
  | lookup (request : OriginRequest (Option RegisteredOrigin)) (answered : Except StorageError (Option RegisteredOrigin))
  | users (request : OriginRequest (List Application)) (answered : Except StorageError (List Application))
  | change (request : OriginRequest Unit) (answered : Except StorageError Unit)

namespace OriginCall

def isRead : OriginCall → Bool
  | .change _ _ => false
  | _ => true

def failure? : OriginCall → Option StorageError
  | .listing _ answered => errorOf? answered
  | .lookup _ answered => errorOf? answered
  | .users _ answered => errorOf? answered
  | .change _ answered => errorOf? answered

end OriginCall

def OriginRequest.call {α : Type} : OriginRequest α → Except StorageError α → OriginCall
  | .byTenant tenant => .listing (.byTenant tenant)
  | .byApplication tenant application => .listing (.byApplication tenant application)
  | .byId id => .lookup (.byId id)
  | .byExternalId id => .lookup (.byExternalId id)
  | .applications id => .users (.applications id)
  | .setTenant tenant origins => .change (.setTenant tenant origins)
  | .setApplication tenant application origins => .change (.setApplication tenant application origins)
  | .addTenant tenant origins => .change (.addTenant tenant origins)
  | .addApplication tenant application origins => .change (.addApplication tenant application origins)
  | .deleteTenant tenant ids => .change (.deleteTenant tenant ids)
  | .deleteApplication tenant application ids => .change (.deleteApplication tenant application ids)

/-- What was said to one of several stores, which is named by its place among them. -/
structure OriginExchange where
  store : Nat
  call : OriginCall

structure Recorded (σ : Type) where
  state : σ
  log : List OriginExchange

def OriginStore.recorded {σ : Type} (place : Nat) (store : OriginStore σ) : OriginStore (Recorded σ) :=
  { priority := store.priority
    answer := fun request =>
      ExceptT.mk fun r =>
        let (result, state) := (store.answer request).run r.state
        (result, ⟨state, r.log ++ [⟨place, request.call result⟩]⟩) }

namespace Management

variable {σ : Type}

def recorded (m : Management σ) : Management (Recorded σ) where
  resolvers := m.resolvers.zoom Recorded.state fun state r => { r with state }
  originStores := m.originStores.mapIdx fun place store => store.recorded place
  policyStores := m.policyStores.map (PolicyStore.zoom Recorded.state fun state r => { r with state })

end Management

def Management.Resolves {σ : Type} (m : Management σ) (s : σ) (domain : String) (resourceId? : Option String)
    (tenant : TenantId) (scope : Scope) : Prop :=
  Text.blank domain = false ∧ ∃ s₁, (m.resolvers.tenant domain).run s = (.ok (some tenant), s₁) ∧
    match resourceId? with
    | none => scope = .tenantLevel
    | some resourceId => Text.blank resourceId = false ∧ ∃ application s₂,
        (m.resolvers.application domain resourceId).run s₁ = (.ok (some application), s₂) ∧
          scope = .application application.id

namespace OriginChange

/-- The items of a change are origins, and these are the different ones among them in their order. -/
def Reads (c : OriginChange) (origins : List Origin) : Prop :=
  ∃ each : List Origin, c.items.map Origin.parse = each.map .ok ∧ each.eraseDups = origins

def Lists (tenant : TenantId) (scope : Scope) (log : List OriginExchange) (listing : List RegisteredOrigin) : Prop :=
  ∃ x ∈ log, x.call = .listing (.listFor tenant scope) (.ok listing)

def Demands (c : OriginChange) (tenant : TenantId) (scope : Scope) (log : List OriginExchange)
    (request : OriginRequest Unit) : Prop :=
  match c.kind with
  | .set => ∃ origins, c.Reads origins ∧ request = .setFor tenant scope origins
  | .add => ∃ origins listing, c.Reads origins ∧ Lists tenant scope log listing ∧
      (∀ o ∈ origins, ∀ e ∈ listing, e.origin ≠ o.text) ∧ request = .addFor tenant scope origins
  | .delete => ∃ listing ids, Lists tenant scope log listing ∧
      (c.items.map fun item => (listing.find? fun e => e.externalId.val = item).map RegisteredOrigin.id) = ids.map some ∧
      request = .deleteFor tenant scope ids

end OriginChange

namespace ManagementRequest

variable {σ α : Type}

def key : ManagementRequest α → String
  | .tenantOrigins domain => domain
  | .applicationOrigins domain _ => domain
  | .originApplications id => id
  | .change c => c.domain
  | .policy domain => domain
  | .setPolicy domain _ => domain

/-- Whether a request gives reason for what is said to the store. -/
def Admits (m : Management σ) (s : σ) : ManagementRequest α → OriginCall → Prop
  | .tenantOrigins domain, call => ∃ tenant answered, m.Resolves s domain none tenant .tenantLevel ∧
      call = .listing (.byTenant tenant) answered
  | .applicationOrigins domain resourceId, call => ∃ tenant application answered,
      m.Resolves s domain (some resourceId) tenant (.application application) ∧
        call = .listing (.byApplication tenant application) answered
  | .originApplications id, call => ∃ answered, call = .lookup (.byExternalId ⟨id⟩) answered
  | .change c, call => ∃ tenant scope, m.Resolves s c.domain c.resourceId? tenant scope ∧
      (c.kind = .delete ∨ ∃ origins, c.Reads origins) ∧
      ((c.kind ≠ .set ∧ ∃ answered, call = .listing (.listFor tenant scope) answered) ∨
        ∃ request answered, call = .change request answered)
  | .policy _, _ => False
  | .setPolicy _ _, _ => False

def Asks (m : Management σ) (s : σ) : ManagementRequest α → Prop
  | .tenantOrigins domain => ∃ tenant, m.Resolves s domain none tenant .tenantLevel
  | .applicationOrigins domain resourceId => ∃ tenant scope, m.Resolves s domain (some resourceId) tenant scope
  | .originApplications _ => True
  | .change c => c.kind ≠ .set ∧ (∃ tenant scope, m.Resolves s c.domain c.resourceId? tenant scope) ∧
      (c.kind = .delete ∨ ∃ origins, c.Reads origins)
  | .policy _ => False
  | .setPolicy _ _ => False

def Tells (m : Management σ) (s : σ) (log : List OriginExchange) (request : OriginRequest Unit) :
    ManagementRequest α → Prop
  | .change c => (∃ store, m.originStore = .ok store) ∧
      ∃ tenant scope, m.Resolves s c.domain c.resourceId? tenant scope ∧ c.Demands tenant scope log request
  | _ => False

/-- What the record of a request shows once it is answered. -/
structure Account (m : Management σ) (s : σ) (request : ManagementRequest α) (answered : Except ManagementError α)
    (log : List OriginExchange) : Prop where
  inTurn : (log.map fun x => x.call.isRead).Sublist [true, false]
  selected : ∀ x ∈ log, x.store = m.originStores.length - 1
  admitted : ∀ x ∈ log, request.Admits m s x.call
  asked_iff : (∃ x ∈ log, x.call.isRead = true) ↔ (∃ store, m.originStore = .ok store) ∧ request.Asks m s
  told_iff : ∀ told, (∃ x ∈ log, ∃ result, x.call = .change told result) ↔ request.Tells m s log told
  failures : ∀ x ∈ log, ∀ e, x.call.failure? = some e → answered = .error (.storage request.key e)

end ManagementRequest

namespace Management

variable {σ α β ε : Type} (m : Management σ)

def resolve (m : Management σ) (domain : String) (resourceId? : Option String) :
    Action σ ManagementError (TenantId × Scope) := do
  let tenant ← m.resolveTenant domain
  let scope ← m.resolveScope domain resourceId?
  return (tenant, scope)

section Part

variable {τ : Type} {get : τ → σ} {put : σ → τ → τ} {m : Management σ} {m' : Management τ}

theorem resolveTenant_zooms (part : Action.IsPart get put) (same : m'.resolvers = m.resolvers.zoom get put)
    (domain : String) : Action.Zooms get put (m'.resolveTenant domain) (m.resolveTenant domain) := by
  unfold resolveTenant
  rw [same]
  split
  · exact part.answer _
  · have asked := (Action.zooms_zoom get put (m.resolvers.tenant domain)).mapError (ManagementError.storage domain)
    refine asked.bind part fun found => ?_
    cases found <;> exact part.answer _

theorem resolveApplication_zooms (part : Action.IsPart get put) (same : m'.resolvers = m.resolvers.zoom get put)
    (domain resourceId : String) :
    Action.Zooms get put (m'.resolveApplication domain resourceId) (m.resolveApplication domain resourceId) := by
  unfold resolveApplication
  rw [same]
  split
  · exact part.answer _
  · have asked := (Action.zooms_zoom get put (m.resolvers.application domain resourceId)).mapError
      (ManagementError.storage resourceId)
    refine asked.bind part fun found => ?_
    cases found <;> exact part.answer _

theorem resolve_zooms (part : Action.IsPart get put) (same : m'.resolvers = m.resolvers.zoom get put)
    (domain : String) (resourceId? : Option String) :
    Action.Zooms get put (m'.resolve domain resourceId?) (m.resolve domain resourceId?) := by
  refine (resolveTenant_zooms part same domain).bind part fun tenant => ?_
  cases resourceId? with
  | none => exact part.answer _
  | some resourceId =>
    have found := (resolveApplication_zooms part same domain resourceId).bind part fun application =>
      part.answer (.ok (Scope.application application))
    exact found.bind part fun scope => part.answer (.ok (tenant, scope))

end Part

def Unrecorded (a : Action (Recorded σ) ε α) (b : Action σ ε α) : Prop :=
  ∀ s log, a.run ⟨s, log⟩ = ((b.run s).1, ⟨(b.run s).2, log⟩)

variable {m} {a : Action (Recorded σ) ε α} {b : Action σ ε α}

theorem Unrecorded.bind {f : α → Action (Recorded σ) ε β} {g : α → Action σ ε β} (first : Unrecorded a b)
    (rest : ∀ x, Unrecorded (f x) (g x)) : Unrecorded (a >>= f) (b >>= g) := by
  intro s log
  have ran := first s log
  rw [Action.run_bind, Action.run_bind, ran]
  cases b.run s with
  | mk result t =>
    cases result with
    | error e => rfl
    | ok x => exact rest x t log

theorem unrecorded_of_zooms (zooms : Action.Zooms Recorded.state (fun state (r : Recorded σ) => { r with state }) a b) :
    Unrecorded a b :=
  fun s log => zooms ⟨s, log⟩

theorem state_isPart : Action.IsPart Recorded.state fun state (r : Recorded σ) => { r with state } where
  get_put := fun _ _ => rfl
  put_put := fun _ _ _ => rfl
  put_get := fun _ => rfl

theorem resolveTenant_unrecorded (m : Management σ) (domain : String) :
    Unrecorded (m.recorded.resolveTenant domain) (m.resolveTenant domain) :=
  unrecorded_of_zooms (resolveTenant_zooms state_isPart rfl domain)

theorem resolve_unrecorded (m : Management σ) (domain : String) (resourceId? : Option String) :
    Unrecorded (m.recorded.resolve domain resourceId?) (m.resolve domain resourceId?) :=
  unrecorded_of_zooms (resolve_zooms state_isPart rfl domain resourceId?)

theorem policyStore_recorded (m : Management σ) :
    m.recorded.policyStore =
      m.policyStore.map (PolicyStore.zoom Recorded.state fun state r => { r with state }) := by
  unfold policyStore recorded
  rw [List.getLast?_map]
  cases m.policyStores.getLast? <;> rfl

theorem askPolicy_unrecorded (m : Management σ) (key : String) (request : PolicyRequest α) :
    Unrecorded (m.recorded.askPolicy key request) (m.askPolicy key request) := by
  intro s log
  simp only [askPolicy, ExceptT.run_mk, policyStore_recorded]
  cases m.policyStore with
  | error e => rfl
  | ok store => rfl

theorem run_resolveTenant_eq_ok_iff {domain : String} {s t : σ} {tenant : TenantId} :
    (m.resolveTenant domain).run s = (.ok tenant, t) ↔
      Text.blank domain = false ∧ (m.resolvers.tenant domain).run s = (.ok (some tenant), t) := by
  unfold resolveTenant
  cases blank : Text.blank domain with
  | true => exact iff_of_false nofun nofun
  | false =>
    change ((m.resolvers.tenant domain).mapError _ >>= _).run s = _ ↔ _
    rw [Action.run_bind, Action.run_mapError]
    rcases (m.resolvers.tenant domain).run s with ⟨e | tenant? , u⟩
    · exact iff_of_false nofun nofun
    · cases tenant? with
      | none => exact iff_of_false nofun nofun
      | some id =>
        change (Except.ok id, u) = _ ↔ _
        constructor
        · rintro ⟨⟩
          exact ⟨rfl, rfl⟩
        · rintro ⟨_, ⟨⟩⟩
          rfl

theorem run_resolveApplication_eq_ok_iff {domain resourceId : String} {s t : σ} {id : ApplicationId} :
    (m.resolveApplication domain resourceId).run s = (.ok id, t) ↔
      Text.blank resourceId = false ∧ ∃ application,
        (m.resolvers.application domain resourceId).run s = (.ok (some application), t) ∧ id = application.id := by
  unfold resolveApplication
  cases blank : Text.blank resourceId with
  | true => exact iff_of_false nofun nofun
  | false =>
    change ((m.resolvers.application domain resourceId).mapError _ >>= _).run s = _ ↔ _
    rw [Action.run_bind, Action.run_mapError]
    rcases (m.resolvers.application domain resourceId).run s with ⟨e | application? , u⟩
    · exact iff_of_false nofun nofun
    · cases application? with
      | none => exact iff_of_false nofun nofun
      | some application =>
        change (Except.ok application.id, u) = _ ↔ _
        constructor
        · rintro ⟨⟩
          exact ⟨rfl, application, rfl, rfl⟩
        · rintro ⟨_, _, ⟨⟩, rfl⟩
          rfl

theorem resolves_iff {domain : String} {resourceId? : Option String} {s : σ} {tenant : TenantId} {scope : Scope} :
    m.Resolves s domain resourceId? tenant scope ↔
      ∃ t, (m.resolve domain resourceId?).run s = (.ok (tenant, scope), t) := by
  constructor
  · rintro ⟨named, t, asked, found⟩
    have first := run_resolveTenant_eq_ok_iff.2 ⟨named, asked⟩
    cases resourceId? with
    | none =>
      subst found
      exact ⟨t, Action.run_bind_ok first⟩
    | some resourceId =>
      obtain ⟨namedToo, application, u, askedToo, rfl⟩ := found
      have second := run_resolveApplication_eq_ok_iff.2 ⟨namedToo, application, askedToo, rfl⟩
      exact ⟨u, (Action.run_bind_ok first).trans (Action.run_bind_ok (Action.run_bind_ok second))⟩
  · rintro ⟨t, ran⟩
    unfold resolve at ran
    rw [Action.run_bind] at ran
    rcases first : (m.resolveTenant domain).run s with ⟨e | id, u⟩
    · rw [first] at ran
      cases ran
    · obtain ⟨named, asked⟩ := run_resolveTenant_eq_ok_iff.1 first
      rw [first] at ran
      cases resourceId? with
      | none =>
        cases ran
        exact ⟨named, _, asked, rfl⟩
      | some resourceId =>
        simp only [resolveScope, Action.run_bind] at ran
        rcases second : (m.resolveApplication domain resourceId).run u with ⟨e | found, v⟩
        · rw [second] at ran
          cases ran
        · obtain ⟨namedToo, application, askedToo, rfl⟩ := run_resolveApplication_eq_ok_iff.1 second
          rw [second] at ran
          cases ran
          exact ⟨named, _, asked, namedToo, application, _, askedToo, rfl⟩

theorem Resolves.unique {domain : String} {resourceId? : Option String} {s : σ} {tenant tenant' : TenantId}
    {scope scope' : Scope} (found : m.Resolves s domain resourceId? tenant scope)
    (other : m.Resolves s domain resourceId? tenant' scope') : tenant' = tenant ∧ scope' = scope := by
  obtain ⟨t, ran⟩ := resolves_iff.1 found
  obtain ⟨t', ran'⟩ := resolves_iff.1 other
  have same := ran'.symm.trans ran
  cases same
  exact ⟨rfl, rfl⟩

theorem Resolves.eq_tenantLevel {domain : String} {s : σ} {tenant : TenantId} {scope : Scope}
    (found : m.Resolves s domain none tenant scope) : scope = .tenantLevel := by
  obtain ⟨_, _, _, same⟩ := found
  exact same

theorem Resolves.eq_application {domain resourceId : String} {s : σ} {tenant : TenantId} {scope : Scope}
    (found : m.Resolves s domain (some resourceId) tenant scope) : ∃ id, scope = .application id := by
  obtain ⟨_, _, _, _, application, _, _, same⟩ := found
  exact ⟨application.id, same⟩

def selectedPlace (m : Management σ) : Nat := m.originStores.length - 1

theorem originStore_recorded (m : Management σ) :
    m.recorded.originStore = m.originStore.map (OriginStore.recorded m.selectedPlace) := by
  unfold originStore recorded selectedPlace
  simp only [List.getLast?_eq_getElem?, List.length_mapIdx, List.getElem?_mapIdx]
  cases m.originStores[m.originStores.length - 1]? <;> rfl

/-- A request goes to the store and is recorded, unless there is no store. -/
theorem ask_recorded (m : Management σ) (key : String) (request : OriginRequest α) (s : σ) :
    (∃ e, m.originStore = .error e ∧ (m.ask key request).run s = (.error e, s) ∧
      ∀ log, (m.recorded.ask key request).run ⟨s, log⟩ = (.error e, ⟨s, log⟩)) ∨
    ∃ store result t, m.originStore = .ok store ∧ (m.ask key request).run s = (result.mapError (.storage key), t) ∧
      ∀ log, (m.recorded.ask key request).run ⟨s, log⟩ =
        (result.mapError (.storage key), ⟨t, log ++ [⟨m.selectedPlace, request.call result⟩]⟩) := by
  simp only [ask, ExceptT.run_mk, originStore_recorded]
  cases m.originStore with
  | error e => exact .inl ⟨e, rfl, rfl, fun _ => rfl⟩
  | ok store =>
    exact .inr ⟨store, ((store.answer request).run s).1, ((store.answer request).run s).2, rfl, rfl, fun _ => rfl⟩

end Management

end OriginRegistry
