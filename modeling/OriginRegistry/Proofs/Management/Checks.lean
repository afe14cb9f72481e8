import OriginRegistry.Proofs.Directory.Lookup
import OriginRegistry.Proofs.Management.Plans
import OriginRegistry.Proofs.Origin.Reading
import OriginRegistry.Proofs.OriginStore.Listing

set_option autoImplicit false

namespace OriginRegistry

namespace Database

variable {db : Database} {tenant : TenantId} {scope : Scope} {domain resourceId : String}

theorem findTenant_eq_ok_iff :
    db.findTenant domain = .ok tenant ↔ Text.blank domain = false ∧ db.tenantOf? domain = some tenant := by
  unfold findTenant
  cases Text.blank domain with
  | true => simp
  | false => cases db.tenantOf? domain <;> simp

theorem eq_of_findTenant {id : TenantId} (own : db.tenantOf? domain = some tenant)
    (found : db.findTenant domain = .ok id) : id = tenant :=
  Option.some.inj ((findTenant_eq_ok_iff.1 found).2.symm.trans own)

theorem findApplication_eq_ok_iff {id : ApplicationId} :
    db.findApplication domain resourceId = .ok id ↔
      Text.blank resourceId = false ∧
        ∃ application, db.applicationOf? domain resourceId = some application ∧ application.id = id := by
  unfold findApplication
  cases Text.blank resourceId with
  | true => simp
  | false => cases db.applicationOf? domain resourceId <;> simp

theorem shownFor_iff {o : OriginRow} :
    db.shownFor tenant scope o = true ↔
      o.tenant = tenant ∧ ∀ a, scope = .application a → ⟨o.id, a⟩ ∈ db.associations := by
  cases scope with
  | tenantLevel => simp [shownFor]
  | application a => simp [shownFor]

theorem findScope_eq_ok {resourceId? : Option String} (scopeFound : db.findScope domain resourceId? = .ok scope) :
    resourceId? = none ∧ scope = .tenantLevel ∨
      ∃ resourceId application, resourceId? = some resourceId ∧
        db.applicationOf? domain resourceId = some application ∧ scope = .application application.id := by
  cases resourceId? with
  | none =>
    cases scopeFound
    exact .inl ⟨rfl, rfl⟩
  | some resourceId =>
    obtain ⟨_, idFound, rfl⟩ := map_eq_ok_iff.1 scopeFound
    obtain ⟨_, application, found, rfl⟩ := findApplication_eq_ok_iff.1 idFound
    exact .inr ⟨resourceId, application, rfl, found, rfl⟩

/-- The application of a scope that was found belongs to the tenant that was found. -/
theorem Consistent.scope_owned (h : db.Consistent) {resourceId? : Option String}
    (tenantFound : db.findTenant domain = .ok tenant) (scopeFound : db.findScope domain resourceId? = .ok scope) :
    ∀ r ∈ db.applications, scope = .application r.application.id → r.tenant = tenant := by
  intro r hr same
  rcases findScope_eq_ok scopeFound with ⟨_, rfl⟩ | ⟨resourceId, application, _, found, rfl⟩
  · cases same
  · have owned := h.owner_of_lookups (findTenant_eq_ok_iff.1 tenantFound).2 found
    have here : r = ⟨tenant, application⟩ := h.eq_of_applicationId hr owned (Scope.application.inj same).symm
    rw [here]

end Database

namespace Management

theorem readOrigins_eq_ok_iff {texts : List String} {origins : List Origin} :
    readOrigins texts = .ok origins ↔ Origin.parseAll texts = .ok origins := mapError_eq_ok_iff

theorem mem_internalIds {domain : String} {existing : List RegisteredOrigin}
    (unique : ∀ e ∈ existing, ∀ f ∈ existing, e.externalId = f.externalId → e = f) {ids : List String}
    {found : List OriginId} (ok : internalIds domain existing ids = .ok found) {id : OriginId} :
    id ∈ found ↔ ∃ e ∈ existing, e.externalId.val ∈ ids ∧ e.id = id := by
  induction ids generalizing found with
  | nil =>
    cases ok
    simp
  | cons first ids ih =>
    unfold internalIds at ok
    cases hit : existing.find? fun o => o.externalId.val = first with
    | none =>
      rw [hit] at ok
      cases ok
    | some o =>
      rw [hit] at ok
      obtain ⟨others, rest, rfl⟩ := map_eq_ok_iff.1 ok
      have member := List.mem_of_find?_eq_some hit
      have named := List.find?_some hit
      simp only [decide_eq_true_eq] at named
      rw [List.mem_cons, ih rest]
      constructor
      · rintro (rfl | ⟨e, he, listed, same⟩)
        · exact ⟨o, member, by simp [named], rfl⟩
        · exact ⟨e, he, List.mem_cons_of_mem first listed, same⟩
      · rintro ⟨e, he, listed, rfl⟩
        rcases List.mem_cons.1 listed with same | listed
        · have here : e = o := unique e he o member (congrArg ExternalId.mk (same.trans named.symm))
          exact .inl (congrArg RegisteredOrigin.id here)
        · exact .inr ⟨e, he, listed, rfl⟩

end Management

namespace OriginRequest

variable {tenant : TenantId} {scope : Scope} {origins : List Origin} {ids : List OriginId}

theorem setFor_warrant : (setFor tenant scope origins).warrant? = some ⟨tenant, scope, origins⟩ := by
  cases scope <;> rfl

theorem addFor_warrant : (addFor tenant scope origins).warrant? = some ⟨tenant, scope, origins⟩ := by
  cases scope <;> rfl

theorem deleteFor_warrant : (deleteFor tenant scope ids).warrant? = some ⟨tenant, scope, []⟩ := by
  cases scope <;> rfl

end OriginRequest

namespace OriginChange

open Database

variable {db : Database} {c : OriginChange} {request : OriginRequest Unit}

def Asks (db : Database) (c : OriginChange) (tenant : TenantId) (scope : Scope) (request : OriginRequest Unit) : Prop :=
  match c.kind with
  | .set => ∃ origins, Origin.parseAll c.items = .ok origins ∧ request = .setFor tenant scope origins
  | .add => ∃ origins, Origin.parseAll c.items = .ok origins ∧ request = .addFor tenant scope origins ∧
      Management.checkNew c.domain (db.listing (db.shownFor tenant scope)) origins = .ok ()
  | .delete => ∃ ids, Management.internalIds c.domain (db.listing (db.shownFor tenant scope)) c.items = .ok ids ∧
      request = .deleteFor tenant scope ids

theorem plan_eq_ok (planned : c.plan db = .ok request) :
    ∃ tenant scope, db.findTenant c.domain = .ok tenant ∧ db.findScope c.domain c.resourceId? = .ok scope ∧
      c.Asks db tenant scope request := by
  obtain ⟨kind, domain, resourceId?, items⟩ := c
  simp only [plan, bind_eq_ok_iff] at planned
  obtain ⟨tenant, tenantFound, scope, scopeFound, asks⟩ := planned
  refine ⟨tenant, scope, tenantFound, scopeFound, ?_⟩
  cases kind with
  | set =>
    simp only [bind_eq_ok_iff, pure_eq_ok_iff, Management.readOrigins_eq_ok_iff] at asks
    obtain ⟨origins, read, rfl⟩ := asks
    exact ⟨origins, read, rfl⟩
  | add =>
    simp only [bind_eq_ok_iff, pure_eq_ok_iff, Management.readOrigins_eq_ok_iff] at asks
    obtain ⟨origins, read, _, checked, rfl⟩ := asks
    exact ⟨origins, read, rfl, checked⟩
  | delete =>
    simp only [bind_eq_ok_iff, pure_eq_ok_iff] at asks
    obtain ⟨ids, found, rfl⟩ := asks
    exact ⟨ids, found, rfl⟩

theorem Asks.warrant {tenant : TenantId} {scope : Scope} (asks : c.Asks db tenant scope request) :
    ∃ origins, request.warrant? = some ⟨tenant, scope, origins⟩ := by
  obtain ⟨kind, domain, resourceId?, items⟩ := c
  cases kind with
  | set =>
    obtain ⟨origins, _, rfl⟩ := asks
    exact ⟨origins, OriginRequest.setFor_warrant⟩
  | add =>
    obtain ⟨origins, _, rfl, _⟩ := asks
    exact ⟨origins, OriginRequest.addFor_warrant⟩
  | delete =>
    obtain ⟨ids, _, rfl⟩ := asks
    exact ⟨[], OriginRequest.deleteFor_warrant⟩

/-- The keys that a change deletes for a scope are those of the rows that are shown for it. -/
theorem mem_found (h : db.Consistent) {tenant : TenantId} {scope : Scope} {domain : String} {items : List String}
    {ids : List OriginId}
    (found : Management.internalIds domain (db.listing (db.shownFor tenant scope)) items = .ok ids)
    {o : OriginRow} (ho : o ∈ db.origins) :
    o.id ∈ ids ↔ db.shownFor tenant scope o = true ∧ o.externalId.val ∈ items := by
  have unique : ∀ e ∈ db.listing (db.shownFor tenant scope), ∀ f ∈ db.listing (db.shownFor tenant scope),
      e.externalId = f.externalId → e = f := by
    intro e he f hf same
    obtain ⟨r, hr, _, rfl⟩ := h.mem_listing.1 he
    obtain ⟨s, hs, _, rfl⟩ := h.mem_listing.1 hf
    rw [h.eq_of_externalId hr hs same]
  rw [Management.mem_internalIds unique found]
  constructor
  · rintro ⟨e, he, listed, same⟩
    obtain ⟨r, hr, shown, rfl⟩ := h.mem_listing.1 he
    obtain rfl := h.eq_of_id hr ho same
    exact ⟨shown, listed⟩
  · rintro ⟨shown, listed⟩
    exact ⟨db.entry o, h.mem_listing.2 ⟨o, ho, shown, rfl⟩, listed, rfl⟩

/-- A plan has a warrant for its own tenant, with normal texts, and keeps to it. -/
theorem plan_warrant (h : db.Consistent) (planned : c.plan db = .ok request) :
    ∃ w, request.warrant? = some w ∧ ¬ request.CrossesIn db ∧
      (∀ r ∈ db.applications, w.scope = .application r.application.id → r.tenant = w.tenant) ∧
      ∀ o ∈ w.origins, IsNormal o := by
  obtain ⟨tenant, scope, tenantFound, scopeFound, asks⟩ := plan_eq_ok planned
  have owned := h.scope_owned tenantFound scopeFound
  obtain ⟨kind, domain, resourceId?, items⟩ := c
  have normal : ∀ {origins}, Origin.parseAll items = .ok origins → ∀ o ∈ origins, IsNormal o := by
    intro origins read o ho
    obtain ⟨text, _, reads⟩ := (Origin.mem_of_parseAll read).1 ho
    exact ⟨text, reads⟩
  cases kind with
  | set =>
    obtain ⟨origins, read, rfl⟩ := asks
    exact ⟨_, OriginRequest.setFor_warrant, by cases scope <;> exact id, owned, normal read⟩
  | add =>
    obtain ⟨origins, read, rfl, _⟩ := asks
    exact ⟨_, OriginRequest.addFor_warrant, by cases scope <;> exact id, owned, normal read⟩
  | delete =>
    obtain ⟨ids, found, rfl⟩ := asks
    refine ⟨_, OriginRequest.deleteFor_warrant, ?_, owned, fun o ho => absurd ho List.not_mem_nil⟩
    cases scope with
    | tenantLevel => exact id
    | application a =>
      rintro ⟨o, ho, named, _, foreign⟩
      exact foreign (shownFor_iff.1 ((mem_found h found ho).1 named).1).1

end OriginChange

end OriginRegistry
