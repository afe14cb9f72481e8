import OriginRegistry.Proofs.Management.Checks
import OriginRegistry.Proofs.PolicyStore.Outcomes

set_option autoImplicit false

namespace OriginRegistry.Management

open Function (update)

variable {source : Source} {p : Pool}

theorem run_resolved {α : Type} (h : p.Healthy) {domain : String} {rest : TenantId → Action Pool ManagementError α}
    {seen : TenantId → Except ManagementError α} (ran : ∀ tenant, (rest tenant).run p = (seen tenant, p)) :
    ((onTables source).resolveTenant domain >>= rest).run p = (p.database.findTenant domain >>= seen, p) := by
  have resolved : ((onTables source).resolveTenant domain).run p = (p.database.findTenant domain, p) := by
    rw [h.eq_open]
    exact run_resolveTenant h.consistent.intact domain
  rw [Action.run_bind, resolved]
  cases p.database.findTenant domain with
  | error e => rfl
  | ok tenant => exact ran tenant

theorem run_listFor (h : p.Healthy) (key : String) (tenant : TenantId) (scope : Scope) :
    ((onTables source).ask key (.listFor tenant scope)).run p =
      (.ok (p.database.listing (p.database.shownFor tenant scope)), p) := by
  rw [h.eq_open]
  exact run_list h.consistent.intact key tenant scope

theorem answer_tenantOrigins (h : p.Healthy) (domain : String) :
    ((onTables source).answer (.tenantOrigins domain)).run p =
      (p.database.findTenant domain >>= fun tenant =>
        .ok (p.database.listing (p.database.shownFor tenant .tenantLevel)), p) :=
  run_resolved h fun tenant => run_listFor h domain tenant .tenantLevel

theorem answer_applicationOrigins (h : p.Healthy) (domain resourceId : String) :
    ((onTables source).answer (.applicationOrigins domain resourceId)).run p =
      (p.database.findTenant domain >>= fun tenant =>
        p.database.findApplication domain resourceId >>= fun id =>
          .ok (p.database.listing (p.database.shownFor tenant (.application id))), p) := by
  refine run_resolved h fun tenant => ?_
  have resolved : ((onTables source).resolveApplication domain resourceId).run p =
      (p.database.findApplication domain resourceId, p) := by
    rw [h.eq_open]
    exact run_resolveApplication h.consistent.intact domain resourceId
  rw [Action.run_bind, resolved]
  cases p.database.findApplication domain resourceId with
  | error e => rfl
  | ok id => exact run_listFor h domain tenant (.application id)

theorem findTenant_row (h : p.Healthy) {t : TenantRow} (registered : t ∈ p.database.tenants)
    (named : Text.blank t.domain = false) : p.database.findTenant t.domain = .ok t.id :=
  Database.findTenant_eq_ok_iff.2 ⟨named, h.consistent.tenantOf?_eq_some_iff.2 ⟨t, registered, rfl, rfl⟩⟩

theorem run_tenantOrigins (h : p.Healthy) {t : TenantRow} (registered : t ∈ p.database.tenants)
    (named : Text.blank t.domain = false) :
    ((onTables source).tenantOrigins t.domain).run p =
      (.ok (p.database.listing (p.database.shownFor t.id .tenantLevel)), p) := by
  have answered : ((onTables source).tenantOrigins t.domain).run p = _ := answer_tenantOrigins h t.domain
  rw [answered, findTenant_row h registered named]
  rfl

theorem run_applicationOrigins (h : p.Healthy) {t : TenantRow} (registered : t ∈ p.database.tenants)
    (named : Text.blank t.domain = false) {a : Application} (owned : ⟨t.id, a⟩ ∈ p.database.applications)
    (known : Text.blank a.resourceId = false) :
    ((onTables source).applicationOrigins t.domain a.resourceId).run p =
      (.ok (p.database.listing (p.database.shownFor t.id (.application a.id))), p) := by
  have found : p.database.findApplication t.domain a.resourceId = .ok a.id :=
    Database.findApplication_eq_ok_iff.2
      ⟨known, a, h.consistent.applicationOf?_eq_some_iff.2 ⟨rfl, t, registered, rfl, owned⟩, rfl⟩
  have answered : ((onTables source).applicationOrigins t.domain a.resourceId).run p = _ :=
    answer_applicationOrigins h t.domain a.resourceId
  rw [answered, findTenant_row h registered named, ok_bind, found]
  rfl

theorem answer_originApplications (source : Source) (h : p.Healthy) (id : String) :
    ((onTables source).answer (.originApplications id)).run p =
      (match (p.database.listing fun o => o.externalId = ⟨id⟩).head? with
        | some o => .ok o.applications
        | none => .error (.storage id (.notFound "CORS origin" id)), p) := by
  have asked : ((onTables source).ask id (.byExternalId ⟨id⟩)).run p =
      (.ok (p.database.listing fun o => o.externalId = ⟨id⟩).head?, p) := by
    rw [h.eq_open]
    exact Action.run_mapError_ok (OriginRequest.run_retrieve h.consistent.intact id (fun _ o => o.externalId = ⟨id⟩)
      List.head?)
  refine (Action.run_bind_ok asked).trans ?_
  cases (p.database.listing fun o => o.externalId = ⟨id⟩).head? <;> rfl

open PolicyStore.Resources in
theorem answer_policy (h : p.Orderly source) (domain : String) :
    ((onTables source).answer (.policy domain)).run p =
      (p.database.findTenant domain >>= fun tenant =>
        (policyOf (p.database.contents (place tenant))).mapError (.configuration domain), p) := by
  refine run_resolved h.toHealthy fun tenant => ?_
  have asked : ((onTables source).askPolicy domain (.policy tenant)).run p =
      (((store (ConfigurationManager.Tables.manager source)).answer (.policy tenant)).mapError _).run p := rfl
  rw [asked, Action.run_mapError, run_policy h]

open PolicyStore.Resources in
theorem answer_setPolicy (h : p.Orderly source) (names : Function.Injective source.name) (domain : String)
    (policy : Policy) :
    match p.database.findTenant domain with
    | .error e => ((onTables source).answer (.setPolicy domain policy)).run p = (.error e, p)
    | .ok tenant => ∃ q, ((onTables source).answer (.setPolicy domain policy)).run p = (.ok (), q) ∧
        p.Refiles source (update p.database.contents (place tenant) (some policy.toAttributes)) q := by
  have resolved : ((onTables source).resolveTenant domain).run p = (p.database.findTenant domain, p) := by
    rw [h.eq_open]
    exact run_resolveTenant h.consistent.intact domain
  cases found : p.database.findTenant domain with
  | error e =>
    rw [found] at resolved
    exact Action.run_bind_error resolved
  | ok tenant =>
    rw [found] at resolved
    obtain ⟨q, ran, step⟩ := run_setPolicy h names tenant policy
    have asked : ((onTables source).askPolicy domain (.setPolicy tenant policy)).run p = (.ok (), q) :=
      Action.run_mapError_ok ran
    exact ⟨q, (Action.run_bind_ok resolved).trans asked, step⟩

end OriginRegistry.Management
