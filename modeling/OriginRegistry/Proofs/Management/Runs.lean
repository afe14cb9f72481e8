import OriginRegistry.Proofs.Configuration.Frame
import OriginRegistry.Proofs.Directory.Registration
import OriginRegistry.Proofs.Management.Checks
import OriginRegistry.Proofs.OriginStore.Continuation

set_option autoImplicit false

namespace OriginRegistry

inductive ServiceEvent : Type 1
  | register {α : Type} (request : Registration α)
  | manage {α : Type} (request : ManagementRequest α)

namespace ServiceEvent

def step (source : Source) (p : Pool) : ServiceEvent → Pool
  | .register request => (request.perform.run p).2
  | .manage request => (((Management.onTables source).answer request).run p).2

def after (source : Source) (events : List ServiceEvent) : Pool := events.foldl (step source) .empty

end ServiceEvent

def ManagementRequest.change? {α : Type} : ManagementRequest α → Option OriginChange
  | .change c => some c
  | _ => none

namespace Management

variable {source : Source}

theorem resolveTenant_configured (domain : String) :
    ((onTables source).resolveTenant domain).Within Pool.Configured :=
  (resolveTenant_reads domain).within .refl

theorem resolveApplication_configured (domain resourceId : String) :
    ((onTables source).resolveApplication domain resourceId).Within Pool.Configured :=
  (resolveApplication_reads domain resourceId).within .refl

theorem answer_configured {α : Type} {request : ManagementRequest α} (other : request.change? = none) :
    ((onTables source).answer request).Within Pool.Configured := by
  cases request with
  | tenantOrigins domain =>
    exact Action.Within.bind .trans (resolveTenant_configured domain) fun _ => Pool.Configured.refl
  | applicationOrigins domain resourceId =>
    refine Action.Within.bind .trans (resolveTenant_configured domain) fun _ => ?_
    exact Action.Within.bind .trans (resolveApplication_configured domain resourceId) fun _ => Pool.Configured.refl
  | originApplications id =>
    have asked : ((onTables source).ask id (.byExternalId ⟨id⟩)).Within Pool.Configured := Pool.Configured.refl
    refine Action.Within.bind .trans asked fun found => ?_
    cases found <;> exact Pool.Configured.refl
  | change c => cases other
  | policy domain =>
    exact Action.Within.bind .trans (resolveTenant_configured domain) fun tenant =>
      policyStore_configured source (.policy tenant)
  | setPolicy domain p =>
    exact Action.Within.bind .trans (resolveTenant_configured domain) fun tenant =>
      policyStore_configured source (.setPolicy tenant p)

end Management

/-- Open connections to tables in order: each origin has a normal text and a name that was drawn, is of use, and is used
    by applications of its own tenant only. -/
structure Pool.Sound (source : Source) (p : Pool) : Prop extends p.Healthy where
  tidy : p.database.NoDangling
  oneTenant : p.database.OneTenant
  allNormal : p.database.AllNormal
  named : p.database.Named source

namespace Pool.Sound

open Database

variable {source : Source} {p q : Pool}

theorem empty (source : Source) : Pool.empty.Sound source where
  toHealthy := Pool.Healthy.empty
  tidy := nofun
  oneTenant := nofun
  allNormal := nofun
  named := nofun

theorem registers (h : p.Sound source) (step : Pool.Registers p q) : q.Sound source where
  toHealthy := h.toHealthy.registers step
  tidy := h.tidy.congr step.2.origins.1 step.2.origins.2
  oneTenant := step.2.oneTenant h.consistent h.oneTenant
  allNormal := h.allNormal.congr step.2.origins.1
  named := h.named.congr step.2.origins.1 (Nat.le_of_eq step.2.drawn.symm)

theorem configured (h : p.Sound source) (step : Pool.Configured p q) : q.Sound source where
  isOpen := step.1.trans h.isOpen
  consistent := step.2.consistent h.consistent
  tidy := h.tidy.congr step.2.origins step.2.associations
  oneTenant := step.2.oneTenant h.oneTenant
  allNormal := h.allNormal.congr step.2.origins
  named := h.named.congr step.2.origins step.2.drawn

theorem planned (h : p.Sound source) {c : OriginChange} {request : OriginRequest Unit}
    (planned : c.plan p.database = .ok request) {after : Database}
    (changed : request.changeIn source p.database = .ok after) : Pool.Sound source ⟨after, true⟩ := by
  obtain ⟨w, warrant, inside, owned, normal⟩ := OriginChange.plan_warrant h.consistent planned
  have effect := OriginRequest.effect_of_changeIn warrant h.consistent inside changed
  exact
    { isOpen := rfl
      consistent := effect.edits.consistent h.consistent
      tidy := effect.tidy h.tidy
      oneTenant := effect.edits.oneTenant h.consistent h.oneTenant owned
      allNormal := effect.edits.allNormal h.allNormal normal
      named := effect.edits.continues.named h.named }

end Pool.Sound

theorem Management.change_cases {source : Source} {p : Pool} (h : p.Healthy) (c : OriginChange) :
    (∃ e, ((onTables source).change c).run p = (.error e, p)) ∨
      ∃ request after, c.plan p.database = .ok request ∧ request.changeIn source p.database = .ok after ∧
        ((onTables source).change c).run p = (.ok (), ⟨after, true⟩) := by
  rw [h.eq_open]
  have intact := h.consistent.intact
  cases plan : c.plan p.database with
  | error e => exact .inl ⟨e, run_change_refused intact plan⟩
  | ok request =>
    have ran : ((onTables source).change c).run ⟨p.database, true⟩ = _ := run_change_planned intact plan
    cases changed : request.changeIn source p.database with
    | error e =>
      rw [changed] at ran
      exact .inl ⟨_, ran⟩
    | ok after =>
      rw [changed] at ran
      exact .inr ⟨request, after, rfl, changed, ran⟩

namespace ServiceEvent

variable {source : Source}

theorem step_sound {p : Pool} (h : p.Sound source) (event : ServiceEvent) : (step source p event).Sound source := by
  cases event with
  | register request => exact h.registers (request.perform_registers p)
  | manage request =>
    cases request with
    | change c =>
      change (((Management.onTables source).change c).run p).2.Sound source
      rcases Management.change_cases h.toHealthy c with ⟨e, ran⟩ | ⟨request, after, planned, changed, ran⟩
      · rw [ran]
        exact h
      · rw [ran]
        exact h.planned planned changed
    | _ => exact h.configured (Management.answer_configured rfl p)

theorem after_sound (source : Source) (events : List ServiceEvent) : (after source events).Sound source :=
  List.foldlRecOn events (step source) (Pool.Sound.empty source) fun _ h event _ => step_sound h event

end ServiceEvent

/-- How rows and associations stand for the origins of tenants and applications. -/
structure Database.Represents (db : Database) : Prop where
  keys : (db.origins.map OriginRow.id).Nodup
  texts : ∀ tenant, ((db.originsOf tenant).map OriginRow.origin).Nodup
  externalIds : (db.origins.map OriginRow.externalId).Nodup
  linkedOrigin : ∀ a ∈ db.associations, ∃ o ∈ db.origins, o.id = a.origin
  linkedApplication : ∀ a ∈ db.associations, ∃ r ∈ db.applications, r.application.id = a.application
  pairs : db.associations.Nodup
  used : ∀ o ∈ db.origins, o.tenantLevel = true ∨ ∃ a ∈ db.associations, a.origin = o.id
  oneTenant : ∀ a ∈ db.associations, ∀ o ∈ db.origins, ∀ r ∈ db.applications,
    o.id = a.origin → r.application.id = a.application → o.tenant = r.tenant
  normal : ∀ o ∈ db.origins, ∃ text, Origin.parse text = .ok o.origin

theorem Pool.Sound.represents {source : Source} {p : Pool} (h : p.Sound source) : p.database.Represents where
  keys := h.consistent.ids
  texts := by
    intro tenant
    refine (h.consistent.ids.of_map.filter _).map_on fun o ho s hs same => ?_
    have first := Database.mem_originsOf.1 ho
    have second := Database.mem_originsOf.1 hs
    exact h.consistent.eq_of_text first.1 second.1 (first.2.trans second.2.symm) same
  externalIds := h.consistent.externalIds
  linkedOrigin := h.consistent.linkedOrigin
  linkedApplication := h.consistent.linkedApplication
  pairs := h.consistent.pairs
  used := by
    intro o ho
    obtain ⟨scope, carries⟩ := h.tidy o ho
    cases scope with
    | tenantLevel => exact .inl carries
    | application a => exact .inr ⟨_, carries, rfl⟩
  oneTenant := by
    rintro ⟨_, _⟩ ha o ho r hr rfl rfl
    exact h.oneTenant o ho r hr ha
  normal := h.allNormal

/-- In every state of every run, the rows represent the origins properly. -/
theorem represents_after_run (source : Source) (events : List ServiceEvent) :
    (ServiceEvent.after source events).database.Represents :=
  (ServiceEvent.after_sound source events).represents

end OriginRegistry
