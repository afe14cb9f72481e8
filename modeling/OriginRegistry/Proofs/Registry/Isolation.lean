import OriginRegistry.Proofs.Registry.Views

set_option autoImplicit false

namespace OriginRegistry

namespace Database

def Confined (tenant : TenantId) (db after : Database) : Prop :=
  after.tenants = db.tenants ∧ after.applications = db.applications ∧
    ∀ other, other ≠ tenant → SameFor other db after

theorem Configured.confined {db after : Database} (step : Configured db after) (tenant : TenantId) :
    Confined tenant db after :=
  ⟨step.tenants, step.applications, fun other _ => step.sameFor other⟩

end Database

namespace ServiceRequest

open Database

variable {source : Source} {tenant other : TenantId} {p : Pool} {ε α : Type} {request : ServiceRequest ε α}

theorem target?_tenant {db : Database} (addressed : request.AddressedTo db tenant) {key : ResourceKey}
    (written : request.event.target? db = some key) : key.tenant = tenant := by
  cases request with
  | manage request =>
    cases request with
    | setPolicy domain policy =>
      obtain ⟨id, found, rfl⟩ := Option.map_eq_some_iff.1 written
      exact Option.some.inj (found.symm.trans (addressed domain rfl))
    | _ => cases written
  | url domain request =>
    obtain ⟨id, found, rfl⟩ := Option.map_eq_some_iff.1 written
    exact Option.some.inj (found.symm.trans (addressed domain rfl))

theorem change_confined (h : p.Healthy) {c : OriginChange} (own : p.database.tenantOf? c.domain = some tenant) :
    Confined tenant p.database (((Management.onTables source).change c).run p).2.database := by
  rcases Management.change_cases h c with ⟨e, ran⟩ | ⟨request, after, planned, changed, ran⟩
  · rw [ran]
    exact (Configured.refl p.database).confined tenant
  · rw [ran]
    obtain ⟨w, warrant, inside, _⟩ := OriginChange.plan_warrant h.consistent planned
    obtain ⟨id, scope, found, _, asks⟩ := OriginChange.plan_eq_ok planned
    obtain ⟨origins, same⟩ := asks.warrant
    -- the warrant of the plan is for the tenant of the domain
    have here : id = tenant := eq_of_findTenant own found
    obtain rfl : w = ⟨tenant, scope, origins⟩ := here ▸ Option.some.inj (warrant.symm.trans same)
    have edits := (OriginRequest.effect_of_changeIn warrant h.consistent inside changed).edits
    exact ⟨edits.originsOnly.tenants, edits.originsOnly.applications, fun other apart => edits.sameFor h.consistent apart⟩

theorem perform_confined (h : p.Orderly source) (names : Function.Injective source.name)
    (addressed : request.AddressedTo p.database tenant) :
    Confined tenant p.database ((request.perform source).run p).2.database := by
  cases request with
  | manage request =>
    cases request with
    | change c => exact change_confined h.toHealthy (addressed c.domain rfl)
    | _ => exact (Management.answer_configured rfl p).2.confined tenant
  | url domain request =>
    obtain ⟨q, ran, refiles, _⟩ := UrlService.answer_ends h names (addressed domain rfl) request
    rw [perform, ran]
    exact refiles.2.configured.confined tenant

theorem perform_alike (h : p.Orderly source) (names : Function.Injective source.name)
    (addressed : request.AddressedTo p.database tenant) (apart : other ≠ tenant) :
    p.AlikeFor other ((request.perform source).run p).2 := by
  obtain ⟨tenants, applications, same⟩ := perform_confined h names addressed
  have stored {key : ResourceKey} (away : key.tenant = other) :
      ((request.perform source).run p).2.database.contents key = p.database.contents key := by
    rw [← step_event]
    refine RegistryEvent.step_contents h names request.event fun written => apart ?_
    rw [← away, target?_tenant addressed written]
  exact ⟨tenants, applications, same other apart, stored rfl, stored rfl⟩

theorem namesOnly_after {q : Pool} (step : Continues source p.database q.database) {name : String}
    (named : p.database.NamesOnly tenant name) (fresh : ∀ k, p.database.drawn ≤ k → source.name k ≠ name) :
    q.database.NamesOnly tenant name := by
  obtain ⟨kept, added, rows, left, new⟩ := step.rows
  rintro o ho rfl
  have there : o.identity ∈ kept ++ added := rows ▸ mem_identities.2 ⟨o, ho, rfl⟩
  rcases List.mem_append.1 there with old | late
  · obtain ⟨r, hr, same⟩ := mem_identities.1 (left.subset old)
    have owner : r.tenant = o.tenant := congrArg OriginIdentity.tenant same
    have called : r.externalId = o.externalId := congrArg OriginIdentity.externalId same
    exact owner ▸ named r hr (congrArg ExternalId.val called)
  · obtain ⟨_, k, low, _, called⟩ := new o.identity late
    exact absurd (congrArg ExternalId.val called).symm (fresh k low)

theorem HasRoom.before {q : Pool} (step : Continues source p.database q.database) (room : request.HasRoom q.database) :
    request.HasRoom p.database := by
  cases request with
  | manage request =>
    cases request with
    | change c => exact fun adds => Nat.le_trans (Nat.add_le_add_right step.lastOrigin _) (room adds)
    | _ => trivial
  | url domain request => trivial

/-- After every run, a request is answered as if another tenant's request had not come before it. One that asks for an
    origin by its name asks for one of its own tenant, or for none. -/
theorem answer_after_other (names : Function.Injective source.name) (events : List RegistryEvent) (apart : other ≠ tenant)
    (first : ServiceRequest ε α) (mine : first.AddressedTo (RegistryEvent.after source events).database tenant)
    {ζ β : Type} (second : ServiceRequest ζ β)
    (yours : second.AddressedTo (RegistryEvent.after source events).database other)
    (named : ∀ name ∈ second.name?, (RegistryEvent.after source events).database.NamesOnly other name ∧
      ∀ k, (RegistryEvent.after source events).database.drawn ≤ k → source.name k ≠ name)
    (room : second.HasRoom ((first.perform source).run (RegistryEvent.after source events)).2.database) :
    ((second.perform source).run ((first.perform source).run (RegistryEvent.after source events)).2).1 =
      ((second.perform source).run (RegistryEvent.after source events)).1 := by
  have before := RegistryEvent.after_orderly names events
  have after := RegistryEvent.step_orderly before names first.event
  have continues := RegistryEvent.step_continues before names first.event
  rw [step_event] at after continues
  have alike := perform_alike before names mine apart
  refine alike.answer_eq before after names yours (fun name asked => ?_) (room.before continues) room
  obtain ⟨own, fresh⟩ := named name asked
  exact ⟨own, namesOnly_after continues own fresh⟩

def secondUses : List RegistryEvent :=
  [.register (.tenant "a.com"), .register (.tenant "b.com"), .register (.application ⟨2⟩ "app" "App"),
    .manage (.change ⟨.add, "b.com", some "app", ["http://foo.com"]⟩)]

/-- The first tenant may have the same origin, which is not that of the second then. -/
theorem secondUses_after_first :
    (((Management.onTables .strokes).originApplications "").run
      (((Management.onTables .strokes).change ⟨.set, "a.com", none, ["http://foo.com"]⟩).run
        (RegistryEvent.after .strokes secondUses)).2).1 = .ok [⟨⟨1⟩, "app", "App"⟩] := by
  have origins : (RegistryEvent.after .strokes secondUses).database.origins =
      [⟨⟨1⟩, ⟨2⟩, ⟨"http://foo.com"⟩, ⟨""⟩, false⟩] := by rfl
  have drawn : (RegistryEvent.after .strokes secondUses).database.drawn = 1 := by rfl
  have before : (((Management.onTables .strokes).originApplications "").run
      (RegistryEvent.after .strokes secondUses)).1 = .ok [⟨⟨1⟩, "app", "App"⟩] := by rfl
  have mine : (ServiceRequest.manage (.change ⟨.set, "a.com", none, ["http://foo.com"]⟩)).AddressedTo
      (RegistryEvent.after .strokes secondUses).database ⟨1⟩ := by
    rintro _ ⟨⟩
    rfl
  have own : (RegistryEvent.after .strokes secondUses).database.NamesOnly ⟨2⟩ "" := by
    intro o ho _
    rw [origins, List.mem_singleton] at ho
    rw [ho]
  have fresh : ∀ k, (RegistryEvent.after .strokes secondUses).database.drawn ≤ k → Source.strokes.name k ≠ "" := by
    intro k later same
    have first : k = 0 := Source.strokes_names same
    omega
  have answered := answer_after_other Source.strokes_names secondUses (show (⟨2⟩ : TenantId) ≠ ⟨1⟩ by decide)
    (.manage (.change ⟨.set, "a.com", none, ["http://foo.com"]⟩)) mine (.manage (.originApplications "")) nofun
    (fun name asked => Option.some.inj asked ▸ ⟨own, fresh⟩) trivial
  exact answered.trans before

end ServiceRequest

end OriginRegistry
