import OriginRegistry.Directory
import OriginRegistry.Proofs.Distinct
import OriginRegistry.Proofs.OriginStore.Consistency

set_option autoImplicit false

namespace OriginRegistry.Database

variable {db : Database} {domain resourceId : String}

theorem Intact.run_tenantId (h : db.Intact) (domain : String) :
    (Directory.tenantId domain).run ⟨db, true⟩ = (.ok (db.tenantOf? domain), ⟨db, true⟩) := by
  rw [Directory.tenantId, Pool.run_query_open, h.need]
  rfl

theorem Intact.run_applicationByResourceId (h : db.Intact) (domain resourceId : String) :
    (Directory.applicationByResourceId domain resourceId).run ⟨db, true⟩ =
      (.ok (db.applicationOf? domain resourceId), ⟨db, true⟩) := by
  rw [Directory.applicationByResourceId, Pool.run_query_open, h.need]
  rfl

theorem DirectoryConsistent.tenantOf?_eq_some_iff (h : db.DirectoryConsistent) {id : TenantId} :
    db.tenantOf? domain = some id ↔ ∃ t ∈ db.tenants, t.id = id ∧ t.domain = domain := by
  have unique : ∀ t ∈ db.tenants, ∀ u ∈ db.tenants, decide (t.domain = domain) = true →
      decide (u.domain = domain) = true → t = u := fun t ht u hu here there =>
    h.eq_of_domain ht hu ((of_decide_eq_true here).trans (of_decide_eq_true there).symm)
  rw [tenantOf?, Option.map_eq_some_iff]
  simp only [find?_eq_some_iff_of_unique unique, decide_eq_true_eq]
  constructor
  · rintro ⟨t, ⟨ht, hd⟩, rfl⟩
    exact ⟨t, ht, rfl, hd⟩
  · rintro ⟨t, ht, rfl, hd⟩
    exact ⟨t, ⟨ht, hd⟩, rfl⟩

theorem tenantOf?_eq_none_iff : db.tenantOf? domain = none ↔ ∀ t ∈ db.tenants, t.domain ≠ domain := by
  simp [tenantOf?]

theorem DirectoryConsistent.applicationOf?_eq_some_iff (h : db.DirectoryConsistent) {application : Application} :
    db.applicationOf? domain resourceId = some application ↔
      application.resourceId = resourceId ∧
        ∃ t ∈ db.tenants, t.domain = domain ∧ ⟨t.id, application⟩ ∈ db.applications := by
  have unique : ∀ r ∈ db.applications, ∀ s ∈ db.applications,
      (decide (r.application.resourceId = resourceId) &&
        db.tenants.any fun t => t.id = r.tenant && t.domain = domain) = true →
      (decide (s.application.resourceId = resourceId) &&
        db.tenants.any fun t => t.id = s.tenant && t.domain = domain) = true → r = s := by
    intro r hr s hs here there
    rw [Bool.and_eq_true, decide_eq_true_eq] at here there
    exact h.eq_of_resourceId hr hs (here.1.trans there.1.symm)
  rw [applicationOf?, Option.map_eq_some_iff]
  simp only [find?_eq_some_iff_of_unique unique, Bool.and_eq_true, decide_eq_true_eq, List.any_eq_true]
  constructor
  · rintro ⟨⟨owner, application⟩, ⟨hr, same, t, ht, rfl, hd⟩, rfl⟩
    exact ⟨same, t, ht, hd, hr⟩
  · rintro ⟨same, t, ht, hd, hr⟩
    exact ⟨_, ⟨hr, same, t, ht, rfl, hd⟩, rfl⟩

theorem DirectoryConsistent.owner_of_lookups (h : db.DirectoryConsistent) {tenant : TenantId}
    {application : Application} (tenantFound : db.tenantOf? domain = some tenant)
    (applicationFound : db.applicationOf? domain resourceId = some application) :
    ⟨tenant, application⟩ ∈ db.applications := by
  obtain ⟨t, ht, rfl, hd⟩ := h.tenantOf?_eq_some_iff.1 tenantFound
  obtain ⟨_, u, hu, hud, owned⟩ := h.applicationOf?_eq_some_iff.1 applicationFound
  rw [h.eq_of_domain ht hu (hd.trans hud.symm)]
  exact owned

end OriginRegistry.Database
