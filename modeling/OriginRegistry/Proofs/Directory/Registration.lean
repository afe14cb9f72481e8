import OriginRegistry.Directory
import OriginRegistry.Proofs.OriginStore.Edits

set_option autoImplicit false

namespace OriginRegistry

inductive Registration : Type → Type
  | tenant (domain : String) : Registration TenantId
  | tenantWithId (id : TenantId) (domain : String) : Registration TenantId
  | application (tenant : TenantId) (resourceId name : String) : Registration Application
  | applicationWithId (id : ApplicationId) (tenant : TenantId) (resourceId name : String) : Registration Application

def Registration.perform {α : Type} : Registration α → Action Pool StorageError α
  | .tenant domain => Directory.registerTenant domain
  | .tenantWithId id domain => Directory.registerTenantWithId id domain
  | .application owner resourceId name => Directory.registerApplication owner resourceId name
  | .applicationWithId id owner resourceId name => Directory.registerApplicationWithId id owner resourceId name

namespace Database

structure NewTenant (db : Database) (row : TenantRow) : Prop where
  id : ∀ t ∈ db.tenants, t.id ≠ row.id
  domain : ∀ t ∈ db.tenants, t.domain ≠ row.domain

structure NewApplication (db : Database) (row : ApplicationRow) : Prop where
  id : ∀ r ∈ db.applications, r.application.id ≠ row.application.id
  name : ∀ r ∈ db.applications, r.tenant = row.tenant → r.application.name ≠ row.application.name
  resourceId : ∀ r ∈ db.applications, r.application.resourceId ≠ row.application.resourceId
  owner : ∃ t ∈ db.tenants, t.id = row.tenant

def withTenant (db : Database) (row : TenantRow) : Database := { db with tenants := db.tenants ++ [row] }

def withApplication (db : Database) (row : ApplicationRow) : Database :=
  { db with
    applications := placeApplication row db.applications
    lastApplication := max db.lastApplication row.application.id.val.toInt.toNat }

inductive Registers (db : Database) : Database → Prop
  | nothing : Registers db db
  | tenant (row : TenantRow) (new : db.NewTenant row) : Registers db (db.withTenant row)
  | application (row : ApplicationRow) (new : db.NewApplication row) : Registers db (db.withApplication row)

variable {db after : Database}

theorem insertTenant_eq_ok_iff {id : TenantId} {domain : String} :
    db.insertTenant id domain = .ok after ↔ db.NewTenant ⟨id, domain⟩ ∧ after = db.withTenant ⟨id, domain⟩ := by
  simp only [insertTenant, ite_error_eq_ok_iff, List.any_eq_true, decide_eq_true_eq, not_exists, not_and]
  constructor
  · rintro ⟨freeId, freeDomain, ⟨⟩⟩
    exact ⟨⟨freeId, freeDomain⟩, rfl⟩
  · rintro ⟨new, rfl⟩
    exact ⟨new.id, new.domain, rfl⟩

theorem insertApplication_eq_ok_iff {row : ApplicationRow} :
    db.insertApplication row = .ok after ↔ db.NewApplication row ∧ after = db.withApplication row := by
  have orphan : (db.tenants.all fun t => t.id ≠ row.tenant) = true ↔ ¬ ∃ t ∈ db.tenants, t.id = row.tenant := by
    simp
  simp only [insertApplication, orphan, ite_error_eq_ok_iff, List.any_eq_true, Bool.and_eq_true, decide_eq_true_eq,
    not_exists, not_and]
  constructor
  · rintro ⟨freeId, freeName, freeResourceId, owned, ⟨⟩⟩
    push Not at owned
    exact ⟨⟨freeId, freeName, freeResourceId, owned⟩, rfl⟩
  · rintro ⟨new, rfl⟩
    refine ⟨new.id, new.name, new.resourceId, ?_, rfl⟩
    push Not
    exact new.owner

theorem placeApplication_perm (row : ApplicationRow) (rows : List ApplicationRow) :
    (placeApplication row rows).Perm (row :: rows) := by
  induction rows with
  | nil => exact List.Perm.refl _
  | cons r rows ih =>
    unfold placeApplication
    split
    · exact List.Perm.refl _
    · exact (ih.cons r).trans (List.Perm.swap row r rows)

theorem mem_withApplication {row r : ApplicationRow} :
    r ∈ (db.withApplication row).applications ↔ r = row ∨ r ∈ db.applications :=
  (placeApplication_perm row db.applications).mem_iff.trans List.mem_cons

theorem withApplication_nodup {β : Type} {f : ApplicationRow → β} {row : ApplicationRow}
    (h : (db.applications.map f).Nodup) (new : ∀ r ∈ db.applications, f r ≠ f row) :
    ((db.withApplication row).applications.map f).Nodup := by
  refine ((placeApplication_perm row db.applications).map f).nodup_iff.2 (List.nodup_cons.2 ⟨?_, h⟩)
  intro taken
  obtain ⟨r, hr, same⟩ := List.mem_map.1 taken
  exact new r hr same

theorem withTenant_nodup {β : Type} {f : TenantRow → β} {row : TenantRow} (h : (db.tenants.map f).Nodup)
    (new : ∀ t ∈ db.tenants, f t ≠ f row) : ((db.withTenant row).tenants.map f).Nodup := by
  simp only [withTenant, List.map_append, List.map_cons, List.map_nil]
  refine List.nodup_append.2 ⟨h, List.nodup_singleton _, ?_⟩
  simp only [List.mem_map, List.mem_singleton, forall_exists_index, and_imp, forall_apply_eq_imp_iff₂, forall_eq]
  exact new

theorem DirectoryConsistent.withTenant_iff (h : db.DirectoryConsistent) {row : TenantRow} :
    (db.withTenant row).DirectoryConsistent ↔ db.NewTenant row := by
  constructor
  · intro kept
    have ids := kept.tenantIds
    have domains := kept.domains
    simp only [withTenant, List.map_append, List.map_cons, List.map_nil] at ids domains
    have apart {β : Type} {f : TenantRow → β} (nodup : (db.tenants.map f ++ [f row]).Nodup) :
        ∀ t ∈ db.tenants, f t ≠ f row := fun t ht =>
      (List.nodup_append.1 nodup).2.2 (f t) (List.mem_map_of_mem ht) (f row) (List.mem_singleton_self _)
    exact ⟨apart ids, apart domains⟩
  · intro new
    exact
      { tenantIds := withTenant_nodup h.tenantIds new.id
        domains := withTenant_nodup h.domains new.domain
        applicationIds := h.applicationIds
        resourceIds := h.resourceIds
        names := h.names
        owners := fun r hr => (h.owners r hr).imp fun t ht => ⟨List.mem_append_left _ ht.1, ht.2⟩ }

theorem DirectoryConsistent.withApplication_iff (h : db.DirectoryConsistent) {row : ApplicationRow} :
    (db.withApplication row).DirectoryConsistent ↔ db.NewApplication row := by
  constructor
  · intro kept
    have apart {β : Type} {f : ApplicationRow → β} (nodup : ((db.withApplication row).applications.map f).Nodup) :
        ∀ r ∈ db.applications, f r ≠ f row := by
      intro r hr same
      have placed := ((placeApplication_perm row db.applications).map f).nodup_iff.1 nodup
      exact (List.nodup_cons.1 placed).1 (same ▸ List.mem_map_of_mem hr)
    exact
      { id := apart kept.applicationIds
        name := fun r hr owner name => apart kept.names r hr (Prod.ext owner name)
        resourceId := apart kept.resourceIds
        owner := kept.owners row (mem_withApplication.2 (.inl rfl)) }
  · intro new
    exact
      { tenantIds := h.tenantIds
        domains := h.domains
        applicationIds := withApplication_nodup h.applicationIds new.id
        resourceIds := withApplication_nodup h.resourceIds new.resourceId
        names := withApplication_nodup h.names fun r hr same =>
          new.name r hr (Prod.mk.inj same).1 (Prod.mk.inj same).2
        owners := by
          intro r hr
          rcases mem_withApplication.1 hr with rfl | hr
          · exact new.owner
          · exact h.owners r hr }

theorem Registers.consistent (step : Registers db after) (h : db.Consistent) : after.Consistent := by
  cases step with
  | nothing => exact h
  | tenant row new =>
    exact
      { toDirectoryConsistent := h.withTenant_iff.2 new
        toOriginsConsistent := h.toOriginsConsistent.congr rfl rfl rfl fun _ => id
        intact := h.intact }
  | application row new =>
    exact
      { toDirectoryConsistent := h.withApplication_iff.2 new
        toOriginsConsistent := h.toOriginsConsistent.congr rfl rfl rfl fun r hr => mem_withApplication.2 (.inr hr)
        intact := h.intact }

theorem Registers.origins (step : Registers db after) :
    after.origins = db.origins ∧ after.associations = db.associations := by
  cases step <;> exact ⟨rfl, rfl⟩

theorem Registers.tenants (step : Registers db after) : ∀ t ∈ db.tenants, t ∈ after.tenants := by
  cases step with
  | tenant row new => exact fun t ht => List.mem_append_left _ ht
  | _ => exact fun t ht => ht

theorem Registers.applications (step : Registers db after) : ∀ r ∈ db.applications, r ∈ after.applications := by
  cases step with
  | application row new => exact fun r hr => mem_withApplication.2 (.inr hr)
  | _ => exact fun r hr => hr

theorem Registers.lastOrigin (step : Registers db after) : after.lastOrigin = db.lastOrigin := by
  cases step <;> rfl

theorem Registers.drawn (step : Registers db after) : after.drawn = db.drawn := by
  cases step <;> rfl

/-- A new application uses no origin, since its key is not that of one before. -/
theorem Registers.oneTenant (step : Registers db after) (h : db.Consistent) (one : db.OneTenant) :
    after.OneTenant := by
  cases step with
  | nothing => exact one
  | tenant row new => exact one
  | application row new =>
    intro o ho r hr linked
    rcases mem_withApplication.1 hr with rfl | hr
    · obtain ⟨s, hs, same⟩ := h.linkedApplication _ linked
      exact absurd same (new.id s hs)
    · exact one o ho r hr linked

end Database

def Pool.Registers (before after : Pool) : Prop :=
  after.isOpen = before.isOpen ∧ Database.Registers before.database after.database

/-- The connections are open, and the tables keep their constraints. -/
structure Pool.Healthy (p : Pool) : Prop where
  isOpen : p.isOpen = true
  consistent : p.database.Consistent

namespace Pool.Healthy

theorem empty : Pool.empty.Healthy := ⟨rfl, Database.empty_consistent⟩

theorem registers {p q : Pool} (h : p.Healthy) (step : Pool.Registers p q) : q.Healthy :=
  ⟨step.1.trans h.isOpen, step.2.consistent h.consistent⟩

theorem eq_open {p : Pool} (h : p.Healthy) : p = ⟨p.database, true⟩ := by
  obtain ⟨db, isOpen⟩ := p
  exact congrArg (Pool.mk db) h.isOpen

section Transactions

variable {ε α : Type} {p : Pool} {refuse : DatabaseError → ε} {change : Database → Except ε (α × Database)}

theorem run_transact_ok (h : p.Healthy) {x : α} {after : Database} (ok : change p.database = .ok (x, after)) :
    (transact refuse change).run p = (.ok x, ⟨after, true⟩) := by
  rw [h.eq_open]
  exact Pool.run_transact_ok ok

theorem run_transact_error (h : p.Healthy) {e : ε} (failed : change p.database = .error e) :
    (transact refuse change).run p = (.error e, p) := by
  rw [h.eq_open]
  exact Pool.run_transact_error failed

end Transactions

end Pool.Healthy

theorem statement_registers {α : Type} {failure : DatabaseError → StorageError}
    {change : Database → Except DatabaseError (α × Database)}
    (registers : ∀ {db after x}, change db = .ok (x, after) → Database.Registers db after) :
    (Directory.statement failure change).Within Pool.Registers :=
  Pool.transact_within (fun _ => ⟨rfl, .nothing⟩) fun _ _ _ ok => ⟨rfl, registers (mapError_eq_ok_iff.1 ok)⟩

theorem Registration.perform_registers {α : Type} (request : Registration α) :
    request.perform.Within Pool.Registers := by
  cases request with
  | tenant domain =>
    refine statement_registers fun ok => ?_
    simp only [bind_eq_ok_iff, pure_eq_ok_iff, Prod.mk.injEq, Database.insertTenant_eq_ok_iff] at ok
    obtain ⟨_, _, _, ⟨new, rfl⟩, _, rfl⟩ := ok
    exact .tenant _ new
  | tenantWithId id domain =>
    refine statement_registers fun ok => ?_
    simp only [bind_eq_ok_iff, pure_eq_ok_iff, Prod.mk.injEq, Database.insertTenant_eq_ok_iff] at ok
    obtain ⟨_, _, _, ⟨new, rfl⟩, _, rfl⟩ := ok
    exact .tenant _ new
  | application owner resourceId name =>
    refine statement_registers fun ok => ?_
    simp only [bind_eq_ok_iff, pure_eq_ok_iff, Prod.mk.injEq, Database.insertApplication_eq_ok_iff] at ok
    obtain ⟨_, _, _, _, _, _, _, ⟨new, rfl⟩, _, rfl⟩ := ok
    exact .application _ new
  | applicationWithId id owner resourceId name =>
    refine statement_registers fun ok => ?_
    simp only [bind_eq_ok_iff, pure_eq_ok_iff, Prod.mk.injEq, Database.insertApplication_eq_ok_iff] at ok
    obtain ⟨_, _, _, _, _, ⟨new, rfl⟩, _, rfl⟩ := ok
    exact .application _ new

end OriginRegistry
