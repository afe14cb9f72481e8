import OriginRegistry.Proofs.Management.Verdicts
import OriginRegistry.Proofs.Registry.Runs

/-!
# What a tenant sees

Two states look alike to a tenant when they have the same directory, the same origins and associations of the tenant,
and the same at the two places of the configuration that the services use for the tenant. Whatever one of the services
is asked for the tenant, it answers alike in both.
-/

set_option autoImplicit false

namespace OriginRegistry

inductive ServiceRequest : Type → Type → Type 1
  | manage {α : Type} (request : ManagementRequest α) : ServiceRequest ManagementError α
  | url {α : Type} (domain : String) (request : UrlRequest α) : ServiceRequest UrlError α

def ManagementRequest.domain? {α : Type} : ManagementRequest α → Option String
  | .tenantOrigins domain => some domain
  | .applicationOrigins domain _ => some domain
  | .originApplications _ => none
  | .change c => some c.domain
  | .policy domain => some domain
  | .setPolicy domain _ => some domain

namespace ServiceRequest

variable {ε α : Type}

def perform (source : Source) : ServiceRequest ε α → Action Pool ε α
  | .manage request => (Management.onTables source).answer request
  | .url domain request => (UrlService.onTables source).answer domain request

def event : ServiceRequest ε α → RegistryEvent
  | .manage request => .manage request
  | .url domain request => .url domain request

theorem step_event (source : Source) (p : Pool) (request : ServiceRequest ε α) :
    RegistryEvent.step source p request.event = ((request.perform source).run p).2 := by
  cases request <;> rfl

def domain? : ServiceRequest ε α → Option String
  | .manage request => request.domain?
  | .url domain _ => some domain

/-- The name by which a request asks for an origin without saying whose it is. -/
def name? : ServiceRequest ε α → Option String
  | .manage (.originApplications id) => some id
  | _ => none

def AddressedTo (db : Database) (tenant : TenantId) (request : ServiceRequest ε α) : Prop :=
  ∀ domain ∈ request.domain?, db.tenantOf? domain = some tenant

def HasRoom (db : Database) : ServiceRequest ε α → Prop
  | .manage (.change c) => c.kind ≠ .delete → db.lastOrigin + c.items.length ≤ largestKey
  | _ => True

end ServiceRequest

namespace Database

variable {db after : Database} {tenant : TenantId}

def NamesOnly (db : Database) (tenant : TenantId) (name : String) : Prop :=
  ∀ o ∈ db.origins, o.externalId.val = name → o.tenant = tenant

theorem filter_associationsOf {o : OriginRow} (ho : o ∈ db.origins) :
    (db.associationsOf o.tenant).filter (fun a => a.origin = o.id) = db.associations.filter fun a => a.origin = o.id := by
  rw [associationsOf, List.filter_filter]
  refine List.filter_congr fun a _ => ?_
  rw [Bool.and_eq_left_iff_imp, decide_eq_true_eq, List.any_eq_true]
  exact fun here => ⟨o, ho, by simp [here]⟩

theorem SameFor.entry_eq (same : SameFor tenant db after) (applications : after.applications = db.applications)
    {o : OriginRow} (ho : o ∈ db.origins) (own : o.tenant = tenant) : after.entry o = db.entry o := by
  subst own
  have there : o ∈ after.origins := (same.mem_iff rfl).2 ho
  have linked : (after.associations.filter fun a => a.origin = o.id) = db.associations.filter fun a => a.origin = o.id := by
    rw [← filter_associationsOf there, same.associations, filter_associationsOf ho]
  have known : after.application? = db.application? := by
    funext id
    rw [application?, application?, applications]
  simp only [entry, applicationsAt, linked, known]

theorem filter_originsOf {shown : OriginRow → Bool} (own : ∀ o ∈ db.origins, shown o = true → o.tenant = tenant) :
    (db.originsOf tenant).filter shown = db.origins.filter shown := by
  rw [originsOf, List.filter_filter]
  refine List.filter_congr fun o ho => ?_
  rw [Bool.and_eq_left_iff_imp, decide_eq_true_eq]
  exact own o ho

theorem SameFor.listing_eq (same : SameFor tenant db after) (applications : after.applications = db.applications)
    (h : db.Consistent) (hafter : after.Consistent) {shown shownToo : OriginRow → Bool}
    (own : ∀ o ∈ db.origins, shown o = true → o.tenant = tenant)
    (ownToo : ∀ o ∈ after.origins, shownToo o = true → o.tenant = tenant)
    (alike : ∀ o ∈ db.origins, o.tenant = tenant → shownToo o = shown o) :
    after.listing shownToo = db.listing shown := by
  have rows : after.origins.filter shownToo = db.origins.filter shown := by
    -- only rows of the tenant are shown on either side, and these are the same
    rw [← filter_originsOf own, ← filter_originsOf ownToo, same.origins]
    refine List.filter_congr fun o ho => ?_
    obtain ⟨ho, mine⟩ := mem_originsOf.1 ho
    exact alike o ho mine
  rw [h.listing_eq, hafter.listing_eq, rows]
  refine List.map_congr_left fun o ho => ?_
  obtain ⟨ho, shows⟩ := List.mem_filter.1 ho
  exact same.entry_eq applications ho (own o ho shows)

end Database

/-- What two states have in common for a tenant. -/
structure Pool.AlikeFor (tenant : TenantId) (p q : Pool) : Prop where
  tenants : q.database.tenants = p.database.tenants
  applications : q.database.applications = p.database.applications
  origins : Database.SameFor tenant p.database q.database
  urls : q.database.contents (UrlList.place tenant) = p.database.contents (UrlList.place tenant)
  policy : q.database.contents (PolicyStore.Resources.place tenant) =
    p.database.contents (PolicyStore.Resources.place tenant)

namespace Pool.AlikeFor

open Database

variable {source : Source} {tenant : TenantId} {p q : Pool}

theorem tenantOf?_eq (alike : p.AlikeFor tenant q) (domain : String) :
    q.database.tenantOf? domain = p.database.tenantOf? domain := by
  rw [tenantOf?, tenantOf?, alike.tenants]

theorem findTenant_eq (alike : p.AlikeFor tenant q) (domain : String) :
    q.database.findTenant domain = p.database.findTenant domain := by
  rw [findTenant, findTenant, alike.tenantOf?_eq]

theorem findApplication_eq (alike : p.AlikeFor tenant q) (domain resourceId : String) :
    q.database.findApplication domain resourceId = p.database.findApplication domain resourceId := by
  rw [findApplication, findApplication, applicationOf?, applicationOf?, alike.tenants, alike.applications]

theorem findScope_eq (alike : p.AlikeFor tenant q) (domain : String) (resourceId? : Option String) :
    q.database.findScope domain resourceId? = p.database.findScope domain resourceId? := by
  cases resourceId? with
  | none => rfl
  | some resourceId => rw [findScope, findScope, alike.findApplication_eq]

theorem shownFor_listing_eq (alike : p.AlikeFor tenant q) (hp : p.Healthy) (hq : q.Healthy) (scope : Scope) :
    q.database.listing (q.database.shownFor tenant scope) = p.database.listing (p.database.shownFor tenant scope) := by
  refine alike.origins.listing_eq alike.applications hp.consistent hq.consistent (fun o _ shown => ?_)
    (fun o _ shown => ?_) fun o ho own => ?_
  · exact (shownFor_iff.1 shown).1
  · exact (shownFor_iff.1 shown).1
  · have linked : ∀ a, q.database.Carries o (.application a) ↔ p.database.Carries o (.application a) := fun _ =>
      alike.origins.carries_iff own ho
    simp only [Carries] at linked
    rw [Bool.eq_iff_iff, shownFor_iff, shownFor_iff]
    simp only [linked]

theorem plan_eq (alike : p.AlikeFor tenant q) (hp : p.Healthy) (hq : q.Healthy) {c : OriginChange}
    (own : p.database.tenantOf? c.domain = some tenant) : c.plan q.database = c.plan p.database := by
  unfold OriginChange.plan
  rw [alike.findTenant_eq]
  cases found : p.database.findTenant c.domain with
  | error e => rfl
  | ok id =>
    obtain rfl := eq_of_findTenant own found
    simp only [ok_bind, alike.findScope_eq, alike.shownFor_listing_eq hp hq]

end Pool.AlikeFor

namespace Pool.AlikeFor

open Database

variable {source : Source} {tenant : TenantId} {p q : Pool}

theorem manage_eq (alike : p.AlikeFor tenant q) (hp : p.Orderly source) (hq : q.Orderly source)
    (names : Function.Injective source.name) {α : Type} {request : ManagementRequest α}
    (addressed : (ServiceRequest.manage request).AddressedTo p.database tenant)
    (named : ∀ name ∈ (ServiceRequest.manage request).name?,
      p.database.NamesOnly tenant name ∧ q.database.NamesOnly tenant name)
    (hpRoom : (ServiceRequest.manage request).HasRoom p.database)
    (hqRoom : (ServiceRequest.manage request).HasRoom q.database) :
    (((Management.onTables source).answer request).run q).1 = (((Management.onTables source).answer request).run p).1 := by
  cases request with
  | tenantOrigins domain =>
    rw [Management.answer_tenantOrigins hp.toHealthy, Management.answer_tenantOrigins hq.toHealthy, alike.findTenant_eq]
    cases known : p.database.findTenant domain with
    | error e => rfl
    | ok id =>
      obtain rfl := eq_of_findTenant (addressed domain rfl) known
      exact congrArg Except.ok (alike.shownFor_listing_eq hp.toHealthy hq.toHealthy .tenantLevel)
  | applicationOrigins domain resourceId =>
    rw [Management.answer_applicationOrigins hp.toHealthy, Management.answer_applicationOrigins hq.toHealthy,
      alike.findTenant_eq, alike.findApplication_eq]
    cases known : p.database.findTenant domain with
    | error e => rfl
    | ok id =>
      obtain rfl := eq_of_findTenant (addressed domain rfl) known
      simp only [ok_bind, alike.shownFor_listing_eq hp.toHealthy hq.toHealthy]
  | originApplications name =>
    obtain ⟨inP, inQ⟩ := named name rfl
    have same : (q.database.listing fun o => o.externalId = ⟨name⟩) =
        p.database.listing fun o => o.externalId = ⟨name⟩ := by
      refine alike.origins.listing_eq alike.applications hp.consistent hq.consistent (fun o ho called => ?_)
        (fun o ho called => ?_) fun _ _ _ => rfl
      · exact inP o ho (congrArg ExternalId.val (of_decide_eq_true called))
      · exact inQ o ho (congrArg ExternalId.val (of_decide_eq_true called))
    rw [Management.answer_originApplications source hp.toHealthy,
      Management.answer_originApplications source hq.toHealthy, same]
  | change c =>
    have plans := alike.plan_eq hp.toHealthy hq.toHealthy (addressed c.domain rfl)
    exact (OriginChange.answer_eq names hq.toHealthy hq.named hqRoom).trans
      ((congrArg _ plans).trans (OriginChange.answer_eq names hp.toHealthy hp.named hpRoom).symm)
  | policy domain =>
    rw [Management.answer_policy hp, Management.answer_policy hq, alike.findTenant_eq]
    cases known : p.database.findTenant domain with
    | error e => rfl
    | ok id =>
      obtain rfl := eq_of_findTenant (addressed domain rfl) known
      simp only [ok_bind, alike.policy]
  | setPolicy domain policy =>
    have before := Management.answer_setPolicy hp names domain policy
    have after := Management.answer_setPolicy hq names domain policy
    rw [alike.findTenant_eq] at after
    cases known : p.database.findTenant domain with
    | error e =>
      rw [known] at before after
      rw [before, after]
    | ok id =>
      rw [known] at before after
      obtain ⟨_, ranBefore, _⟩ := before
      obtain ⟨_, ranAfter, _⟩ := after
      rw [ranBefore, ranAfter]

theorem url_eq (alike : p.AlikeFor tenant q) (hp : p.Orderly source) (hq : q.Orderly source)
    (names : Function.Injective source.name) {domain : String} (own : p.database.tenantOf? domain = some tenant)
    {α : Type} (request : UrlRequest α) :
    (((UrlService.onTables source).answer domain request).run q).1 =
      (((UrlService.onTables source).answer domain request).run p).1 := by
  obtain ⟨_, ranBefore, _⟩ := UrlService.answer_ends hp names own request
  obtain ⟨_, ranAfter, _⟩ := UrlService.answer_ends hq names ((alike.tenantOf?_eq domain).trans own) request
  rw [ranBefore, ranAfter, alike.urls]

/-- States that look alike to a tenant answer alike. -/
theorem answer_eq (alike : p.AlikeFor tenant q) (hp : p.Orderly source) (hq : q.Orderly source)
    (names : Function.Injective source.name) {ε α : Type} {request : ServiceRequest ε α}
    (addressed : request.AddressedTo p.database tenant)
    (named : ∀ name ∈ request.name?, p.database.NamesOnly tenant name ∧ q.database.NamesOnly tenant name)
    (hpRoom : request.HasRoom p.database) (hqRoom : request.HasRoom q.database) :
    ((request.perform source).run q).1 = ((request.perform source).run p).1 := by
  cases request with
  | manage request => exact alike.manage_eq hp hq names addressed named hpRoom hqRoom
  | url domain request => exact alike.url_eq hp hq names (addressed domain rfl) request

end Pool.AlikeFor

end OriginRegistry
