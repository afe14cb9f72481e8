import OriginRegistry.Proofs.Management.Reads
import OriginRegistry.Proofs.Management.Runs
import OriginRegistry.Proofs.OriginStore.Continuation
import OriginRegistry.Proofs.UrlList.Outcomes

/-!
# Runs of the whole registry

A run takes registrations, requests to both services, and requests to the store of origins and to the manager of
resources behind them, in any order and with any arguments. Each of them registers something, writes under one key of
the configuration, or changes origins; whichever it is, the tables stay in order and rows keep what they are called.
-/

set_option autoImplicit false

namespace OriginRegistry

/-- What the registry may be asked, also past its services. -/
inductive RegistryEvent : Type 1
  | register {α : Type} (request : Registration α)
  | manage {α : Type} (request : ManagementRequest α)
  | url {α : Type} (domain : String) (request : UrlRequest α)
  | ask {α : Type} (request : OriginRequest α)
  | configure {α : Type} (request : ConfigurationRequest α)

/-- A request to the store of origins was done, be it asked for directly or by way of the management. -/
def Pool.Reworks (source : Source) (p q : Pool) : Prop :=
  q.isOpen = p.isOpen ∧ ∃ (α : Type) (request : OriginRequest α), request.changeIn source p.database = .ok q.database

namespace RegistryEvent

open Database

def step (source : Source) (p : Pool) : RegistryEvent → Pool
  | .register request => (request.perform.run p).2
  | .manage request => (((Management.onTables source).answer request).run p).2
  | .url domain request => (((UrlService.onTables source).answer domain request).run p).2
  | .ask request => (((OriginStore.Tables.store source).answer request).run p).2
  | .configure request => (((ConfigurationManager.Tables.manager source).answer request).run p).2

def after (source : Source) (events : List RegistryEvent) : Pool := events.foldl (step source) .empty

def target? (db : Database) : RegistryEvent → Option ResourceKey
  | .manage (.setPolicy domain _) => (db.tenantOf? domain).map PolicyStore.Resources.place
  | .url domain _ => (db.tenantOf? domain).map UrlList.place
  | .configure request => request.target?
  | _ => none

variable {source : Source} {p q : Pool}

theorem manage_cases (h : p.Orderly source) (names : Function.Injective source.name) {α : Type}
    (request : ManagementRequest α) :
    p.Writes source (target? p.database (.manage request)) (step source p (.manage request)) ∨
      p.Reworks source (step source p (.manage request)) := by
  have reads : ∀ {x}, ((Management.onTables source).answer request).run p = (x, p) →
      p.Writes source (target? p.database (.manage request)) (step source p (.manage request)) := by
    intro x ran
    rw [step, ran]
    exact .nothing h _
  cases request with
  | tenantOrigins domain => exact .inl (reads (Management.answer_tenantOrigins h.toHealthy domain))
  | applicationOrigins domain resourceId =>
    exact .inl (reads (Management.answer_applicationOrigins h.toHealthy domain resourceId))
  | originApplications id => exact .inl (reads (Management.answer_originApplications source h.toHealthy id))
  | change c =>
    rcases Management.change_cases h.toHealthy c with ⟨e, ran⟩ | ⟨request, after, _, changed, ran⟩
    · exact .inl (reads ran)
    · refine .inr ?_
      change p.Reworks source (((Management.onTables source).change c).run p).2
      rw [ran]
      exact ⟨h.isOpen.symm, _, request, changed⟩
  | policy domain => exact .inl (reads (Management.answer_policy h domain))
  | setPolicy domain policy =>
    have answered := Management.answer_setPolicy h names domain policy
    cases found : p.database.findTenant domain with
    | error e =>
      rw [found] at answered
      exact .inl (reads answered)
    | ok tenant =>
      rw [found] at answered
      obtain ⟨q, ran, refiles⟩ := answered
      rw [target?, (findTenant_eq_ok_iff.1 found).2, step, ran]
      exact .inl ⟨refiles.1, refiles.2.writes⟩

theorem step_cases (h : p.Orderly source) (names : Function.Injective source.name) (event : RegistryEvent) :
    p.Registers (step source p event) ∨ p.Writes source (event.target? p.database) (step source p event) ∨
      p.Reworks source (step source p event) := by
  cases event with
  | register request => exact .inl (request.perform_registers p)
  | manage request => exact .inr (manage_cases h names request)
  | url domain request =>
    refine .inr (.inl ?_)
    cases found : p.database.tenantOf? domain with
    | none =>
      rw [step, UrlService.answer_unresolved h.toHealthy found]
      exact .nothing h _
    | some tenant =>
      obtain ⟨q, ran, refiles, _⟩ := UrlService.answer_ends h names found request
      rw [target?, found, step, ran]
      exact ⟨refiles.1, refiles.2.writes⟩
  | ask request =>
    have intact := h.consistent.intact
    have same := h.eq_open
    cases changed : request.changeIn source p.database with
    | ok after =>
      obtain ⟨x, ran⟩ := OriginRequest.answer_ok intact changed
      rw [← same] at ran
      rw [step, ran]
      exact .inr (.inr ⟨h.isOpen.symm, _, request, changed⟩)
    | error e =>
      have ran := OriginRequest.answer_error changed
      rw [← same] at ran
      rw [step, ran]
      exact .inr (.inl (.nothing h _))
  | configure request => exact .inr (.inl (manager_writes h names request))

theorem reworks_orderly (h : p.Orderly source) (step : p.Reworks source q) : q.Orderly source := by
  obtain ⟨same, α, request, changed⟩ := step
  have only := OriginRequest.changeIn_originsOnly h.consistent changed
  exact
    { isOpen := same.trans h.isOpen
      consistent := OriginRequest.changeIn_consistent h.consistent changed
      named := (OriginRequest.changeIn_continues h.consistent changed).named h.named
      filed := h.filed.congr only.resourceTypes only.resources only.attributes only.drawn }

theorem step_orderly (h : p.Orderly source) (names : Function.Injective source.name) (event : RegistryEvent) :
    (step source p event).Orderly source := by
  rcases step_cases h names event with registers | writes | reworks
  · exact (h.registers registers).1
  · exact writes.orderly h
  · exact reworks_orderly h reworks

theorem step_contents (h : p.Orderly source) (names : Function.Injective source.name) (event : RegistryEvent)
    {key : ResourceKey} (elsewhere : event.target? p.database ≠ some key) :
    (step source p event).database.contents key = p.database.contents key := by
  rcases step_cases h names event with registers | writes | ⟨_, α, request, changed⟩
  · rw [(h.registers registers).2]
  · exact writes.contents_eq elsewhere
  · have only := OriginRequest.changeIn_originsOnly h.consistent changed
    exact contents_congr only.resourceTypes only.resources only.attributes

theorem step_continues (h : p.Orderly source) (names : Function.Injective source.name) (event : RegistryEvent) :
    Continues source p.database (step source p event).database := by
  rcases step_cases h names event with ⟨_, registers⟩ | ⟨_, now, refiles, _⟩ | ⟨_, α, request, changed⟩
  · exact .of_origins registers.origins.1 registers.lastOrigin (Nat.le_of_eq registers.drawn.symm)
  · have configured := refiles.configured
    exact .of_origins configured.origins configured.lastOrigin configured.drawn
  · exact OriginRequest.changeIn_continues h.consistent changed

theorem step_tenants (h : p.Orderly source) (names : Function.Injective source.name) (event : RegistryEvent)
    {t : TenantRow} (ht : t ∈ p.database.tenants) : t ∈ (step source p event).database.tenants := by
  rcases step_cases h names event with ⟨_, registers⟩ | ⟨_, now, refiles, _⟩ | ⟨_, α, request, changed⟩
  · exact registers.tenants t ht
  · rw [refiles.configured.tenants]
    exact ht
  · rw [(OriginRequest.changeIn_originsOnly h.consistent changed).tenants]
    exact ht

theorem foldl_orderly (h : p.Orderly source) (names : Function.Injective source.name) (events : List RegistryEvent) :
    (events.foldl (step source) p).Orderly source :=
  List.foldlRecOn events (step source) h fun _ h event _ => step_orderly h names event

theorem after_orderly (names : Function.Injective source.name) (events : List RegistryEvent) :
    (after source events).Orderly source :=
  foldl_orderly (.empty source) names events

theorem foldl_continues (h : p.Orderly source) (names : Function.Injective source.name) (events : List RegistryEvent) :
    Continues source p.database (events.foldl (step source) p).database := by
  induction events generalizing p with
  | nil => exact .refl source p.database
  | cons event events ih => exact (step_continues h names event).trans (ih (step_orderly h names event))

theorem foldl_tenants (h : p.Orderly source) (names : Function.Injective source.name) (events : List RegistryEvent)
    {t : TenantRow} (ht : t ∈ p.database.tenants) : t ∈ (events.foldl (step source) p).database.tenants := by
  induction events generalizing p with
  | nil => exact ht
  | cons event events ih => exact ih (step_orderly h names event) (step_tenants h names event ht)

end RegistryEvent

end OriginRegistry
