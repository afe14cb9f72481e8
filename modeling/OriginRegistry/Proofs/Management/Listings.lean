import OriginRegistry.Proofs.Management.Ledger
import OriginRegistry.Proofs.Management.Reads

set_option autoImplicit false

namespace OriginRegistry

/-- A listing shows the sets of a tenant: one entry for each origin in any of them, marked with the tenant level and
    the applications that allow it. -/
structure AllowList.ShownBy (allowed : AllowList) (db : Database) (tenant : TenantId)
    (listing : List RegisteredOrigin) : Prop where
  distinct : (listing.map RegisteredOrigin.origin).Nodup
  complete : ∀ origin : Origin, origin.text ∈ listing.map RegisteredOrigin.origin ↔
    origin ∈ allowed .tenantLevel ∨ ∃ a, ⟨tenant, a⟩ ∈ db.applications ∧ origin ∈ allowed (.application a.id)
  levels : ∀ e ∈ listing, e.tenantLevel = true ↔ ⟨e.origin⟩ ∈ allowed .tenantLevel
  applicationsOnce : ∀ e ∈ listing, e.applications.Nodup
  applications : ∀ e ∈ listing, ∀ a, a ∈ e.applications ↔
    ⟨tenant, a⟩ ∈ db.applications ∧ ⟨e.origin⟩ ∈ allowed (.application a.id)

section Listings

open Database

variable {source : Source} {db : Database} {tenant : TenantId} {allowed : AllowList}

theorem Database.Consistent.allows_row (h : db.Consistent) {o : OriginRow} (ho : o ∈ db.origins) {scope : Scope} :
    db.Allows o.tenant scope o.origin ↔ db.Carries o scope := by
  constructor
  · rintro ⟨r, hr, own, same, carries⟩
    exact h.eq_of_text hr ho own same ▸ carries
  · exact fun carries => ⟨o, ho, rfl, rfl, carries⟩

theorem Database.Consistent.mem_tenantListing (h : db.Consistent) {e : RegisteredOrigin} :
    e ∈ db.listing (db.shownFor tenant .tenantLevel) ↔ ∃ o ∈ db.origins, o.tenant = tenant ∧ db.entry o = e := by
  rw [h.mem_listing]
  simp only [shownFor, decide_eq_true_eq]

theorem Database.Consistent.tenantListing_nodup (h : db.Consistent) (tenant : TenantId) :
    ((db.listing (db.shownFor tenant .tenantLevel)).map RegisteredOrigin.origin).Nodup := by
  rw [h.listing_eq, List.map_map]
  refine (h.ids.of_map.filter _).map_on fun o ho r hr text => ?_
  simp only [List.mem_filter, shownFor, decide_eq_true_eq] at ho hr
  exact h.eq_of_text ho.1 hr.1 (ho.2.trans hr.2.symm) (congrArg Origin.mk text)

theorem Pool.Sound.mem_applicationsAt {p : Pool} (h : p.Sound source) {o : OriginRow} (ho : o ∈ p.database.origins)
    {a : Application} :
    a ∈ p.database.applicationsAt o.id ↔
      ⟨o.tenant, a⟩ ∈ p.database.applications ∧ ⟨o.id, a.id⟩ ∈ p.database.associations := by
  rw [h.consistent.mem_applicationsAt]
  refine and_congr_left fun linked => ⟨?_, fun registered => ⟨_, registered, rfl⟩⟩
  rintro ⟨⟨t, _⟩, hr, rfl⟩
  have own : o.tenant = t := h.oneTenant o ho _ hr linked
  rw [own]
  exact hr

theorem Pool.Sound.row_used {p : Pool} (h : p.Sound source) {o : OriginRow} (ho : o ∈ p.database.origins) :
    p.database.Carries o .tenantLevel ∨
      ∃ a, ⟨o.tenant, a⟩ ∈ p.database.applications ∧ p.database.Carries o (.application a.id) := by
  obtain ⟨scope, carries⟩ := h.tidy o ho
  cases scope with
  | tenantLevel => exact .inl carries
  | application id =>
    obtain ⟨⟨t, a⟩, hr, rfl⟩ := h.consistent.linkedApplication _ carries
    have own : o.tenant = t := h.oneTenant o ho _ hr carries
    rw [own]
    exact .inr ⟨a, hr, carries⟩

theorem listing_shows {p : Pool} (h : p.Sound source)
    (same : ∀ scope origin, origin ∈ allowed scope ↔ p.database.Allows tenant scope origin) :
    allowed.ShownBy p.database tenant (p.database.listing (p.database.shownFor tenant .tenantLevel)) := by
  have row : ∀ o ∈ p.database.origins, o.tenant = tenant → ∀ scope,
      o.origin ∈ allowed scope ↔ p.database.Carries o scope := by
    rintro o ho rfl scope
    rw [same, h.consistent.allows_row ho]
  constructor
  case distinct => exact h.consistent.tenantListing_nodup tenant
  case complete =>
    intro origin
    constructor
    · intro shown
      obtain ⟨e, he, text⟩ := List.mem_map.1 shown
      obtain ⟨o, ho, rfl, rfl⟩ := h.consistent.mem_tenantListing.1 he
      obtain rfl : o.origin = origin := congrArg Origin.mk text
      rcases h.row_used ho with level | ⟨a, registered, uses⟩
      · exact .inl ((row o ho rfl _).2 level)
      · exact .inr ⟨a, registered, (row o ho rfl _).2 uses⟩
    · intro has
      have allows : ∃ scope, p.database.Allows tenant scope origin := by
        rcases has with level | ⟨a, _, uses⟩
        · exact ⟨_, (same _ _).1 level⟩
        · exact ⟨_, (same _ _).1 uses⟩
      obtain ⟨_, o, ho, own, rfl, _⟩ := allows
      exact List.mem_map.2 ⟨_, h.consistent.mem_tenantListing.2 ⟨o, ho, own, rfl⟩, rfl⟩
  case levels =>
    intro e he
    obtain ⟨o, ho, own, rfl⟩ := h.consistent.mem_tenantListing.1 he
    exact (row o ho own .tenantLevel).symm
  case applicationsOnce =>
    intro e he
    obtain ⟨o, _, _, rfl⟩ := h.consistent.mem_tenantListing.1 he
    exact h.consistent.applicationsAt_nodup o.id
  case applications =>
    intro e he a
    obtain ⟨o, ho, rfl, rfl⟩ := h.consistent.mem_tenantListing.1 he
    change a ∈ p.database.applicationsAt o.id ↔ _
    rw [h.mem_applicationsAt ho]
    exact and_congr_right fun _ => (row o ho rfl (.application a.id)).symm

theorem application_listing {p : Pool} (h : p.Sound source)
    (same : ∀ scope origin, origin ∈ allowed scope ↔ p.database.Allows tenant scope origin) (id : ApplicationId) :
    p.database.listing (p.database.shownFor tenant (.application id)) =
      (p.database.listing (p.database.shownFor tenant .tenantLevel)).filter fun e =>
        ⟨e.origin⟩ ∈ allowed (.application id) := by
  rw [h.consistent.listing_eq, h.consistent.listing_eq, List.filter_map, List.filter_filter]
  refine congrArg (List.map _) (List.filter_congr fun o ho => ?_)
  by_cases own : o.tenant = tenant
  · subst own
    have row : ⟨o.id, id⟩ ∈ p.database.associations ↔ ⟨o.origin.text⟩ ∈ allowed (.application id) := by
      rw [same, h.consistent.allows_row ho]
      exact Iff.rfl
    simp only [shownFor, decide_true, Bool.true_and, Function.comp_apply, Bool.and_true]
    rw [Bool.eq_iff_iff, List.contains_iff_mem, row]
    exact decide_eq_true_iff.symm
  · simp [shownFor, own]

end Listings

namespace Management

/-- After every run, the listings of a tenant and of its applications show the sets that the changes of the run have
    made, and reading them changes nothing. -/
theorem listings_show_ledger (source : Source) (events : List ServiceEvent) {t : TenantRow}
    (registered : t ∈ (ServiceEvent.after source events).database.tenants) (named : Text.blank t.domain = false) :
    ∃ listing,
      ((onTables source).tenantOrigins t.domain).run (ServiceEvent.after source events) =
        (.ok listing, ServiceEvent.after source events) ∧
      ((Ledger.after source events).allowed t.id).ShownBy (ServiceEvent.after source events).database t.id listing ∧
      ∀ a, ⟨t.id, a⟩ ∈ (ServiceEvent.after source events).database.applications → Text.blank a.resourceId = false →
        ((onTables source).applicationOrigins t.domain a.resourceId).run (ServiceEvent.after source events) =
          (.ok (listing.filter fun e => ⟨e.origin⟩ ∈ (Ledger.after source events).allowed t.id (.application a.id)),
            ServiceEvent.after source events) := by
  have faithful := Ledger.after_faithful source events
  have sound := faithful.sound
  have same := faithful.same t.id
  rw [Ledger.after_pool] at sound same
  refine ⟨_, run_tenantOrigins sound.toHealthy registered named, listing_shows sound same, fun a owned known => ?_⟩
  rw [run_applicationOrigins sound.toHealthy registered named owned known, application_listing sound same]

def sharedRun : List ServiceEvent :=
  [.register (.tenant "a.com"), .register (.application ⟨1⟩ "app" "App"),
    .manage (.change ⟨.set, "a.com", none, ["http://foo.com"]⟩),
    .manage (.change ⟨.add, "a.com", some "app", ["HTTP://foo.com:80/", "http://bar.com"]⟩)]

def sharedListing : List RegisteredOrigin :=
  [⟨⟨1⟩, ⟨""⟩, "http://foo.com", true, [⟨⟨1⟩, "app", "App"⟩]⟩,
    ⟨⟨2⟩, ⟨"|"⟩, "http://bar.com", false, [⟨⟨1⟩, "app", "App"⟩]⟩]

theorem sharedRun_listings :
    ((Ledger.after .strokes sharedRun).allowed ⟨1⟩).ShownBy (ServiceEvent.after .strokes sharedRun).database ⟨1⟩
        sharedListing ∧
      ((onTables .strokes).applicationOrigins "a.com" "app").run (ServiceEvent.after .strokes sharedRun) =
        (.ok (sharedListing.filter fun e =>
            ⟨e.origin⟩ ∈ (Ledger.after .strokes sharedRun).allowed ⟨1⟩ (.application ⟨1⟩)),
          ServiceEvent.after .strokes sharedRun) := by
  have tenants : (ServiceEvent.after .strokes sharedRun).database.tenants = [⟨⟨1⟩, "a.com"⟩] := by rfl
  have applications : (ServiceEvent.after .strokes sharedRun).database.applications =
      [⟨⟨1⟩, ⟨1⟩, "app", "App"⟩] := by rfl
  have registered : ⟨⟨1⟩, "a.com"⟩ ∈ (ServiceEvent.after .strokes sharedRun).database.tenants := by
    rw [tenants]
    exact List.mem_singleton_self _
  have owned : ⟨⟨1⟩, ⟨1⟩, "app", "App"⟩ ∈ (ServiceEvent.after .strokes sharedRun).database.applications := by
    rw [applications]
    exact List.mem_singleton_self _
  have ends : (((onTables .strokes).tenantOrigins "a.com").run (ServiceEvent.after .strokes sharedRun)).1 =
      .ok sharedListing := by rfl
  obtain ⟨listing, ran, shows, ofApplication⟩ := listings_show_ledger .strokes sharedRun registered rfl
  rw [ran] at ends
  obtain rfl := Except.ok.inj ends
  exact ⟨shows, ofApplication ⟨⟨1⟩, "app", "App"⟩ owned rfl⟩

end Management

end OriginRegistry
