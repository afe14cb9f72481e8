import Mathlib.Data.List.Perm.Subperm
import OriginRegistry.Proofs.Directory.Lookup
import OriginRegistry.Proofs.Directory.Registration

/-!
# Registrations are kept

Among runs of registrations alone, a registration goes through just if the constraints of the directory can hold with
its row. Its row is stored then and never goes, so that from there on the tenant is found by its domain, and the
application by its resource id, for the domain of its tenant and for no other.
-/

set_option autoImplicit false

namespace OriginRegistry

namespace Database

variable {db after : Database}

def HasTenantKey (db : Database) : Prop := ∃ key : Int64, 0 < key ∧ ∀ t ∈ db.tenants, t.id.val ≠ key

/-- Only a key that was chosen before or given by a caller is in use. -/
def Counted (db : Database) : Prop := ∀ r ∈ db.applications, r.application.id.val.toInt ≤ db.lastApplication

theorem freeTenantId_new (room : db.HasTenantKey) : ∀ t ∈ db.tenants, t.id ≠ db.freeTenantId := by
  obtain ⟨key, positive, free⟩ := room
  let keys := (List.range (db.tenants.length + 1)).map fun n => Int64.ofNat (n + 1)
  suffices found : (keys.find? fun key => db.tenants.all fun t => t.id.val ≠ key).isSome by
    obtain ⟨chosen, chosen_eq⟩ := Option.isSome_iff_exists.1 found
    have free := List.find?_some chosen_eq
    intro t ht same
    have apart := of_decide_eq_true (List.all_eq_true.1 free t ht)
    exact apart (by rw [same, freeTenantId, chosen_eq, Option.getD_some])
  by_contra none_free
  simp only [List.find?_isSome, List.all_eq_true, decide_eq_true_eq, not_exists, not_and, not_forall, not_not]
    at none_free
  have taken : keys ⊆ db.tenants.map fun t => t.id.val := by
    intro key hkey
    obtain ⟨t, ht, same⟩ := none_free key hkey
    exact List.mem_map.2 ⟨t, ht, same⟩
  by_cases few : db.tenants.length + 1 < 2 ^ 63
  · -- there are more keys than tenants
    have distinct : keys.Nodup := by
      refine (List.nodup_map_iff_inj_on List.nodup_range).2 fun m hm n hn same => ?_
      have same := congrArg Int64.toInt same
      rw [List.mem_range] at hm hn
      rw [Int64.toInt_ofNat_of_lt (by omega), Int64.toInt_ofNat_of_lt (by omega)] at same
      omega
    have bound := (distinct.subperm taken).length_le
    simp only [keys, List.length_map, List.length_range] at bound
    omega
  · -- every key above zero is among those that are tried
    have low := Int64.lt_iff_toInt_lt.1 positive
    have high := Int64.toInt_lt key
    have tried : key ∈ keys := by
      refine List.mem_map.2 ⟨key.toInt.toNat - 1, List.mem_range.2 (by omega), ?_⟩
      rw [show key.toInt.toNat - 1 + 1 = key.toInt.toNat by simp at low; omega]
      apply Int64.toInt_inj.1
      rw [Int64.toInt_ofNat_of_lt (by omega)]
      simp at low
      omega
    obtain ⟨t, ht, same⟩ := none_free key tried
    exact free t ht same

theorem nextTenantId_new (room : db.HasTenantKey) : ∀ t ∈ db.tenants, t.id ≠ db.nextTenantId := by
  intro t ht same
  have listed : t.id.val.toInt ∈ db.tenants.map fun t => t.id.val.toInt := List.mem_map_of_mem ht
  unfold nextTenantId at same
  cases greatest : (db.tenants.map fun t => t.id.val.toInt).max? with
  | none =>
    rw [List.max?_eq_none_iff] at greatest
    rw [greatest] at listed
    exact absurd listed List.not_mem_nil
  | some n =>
    simp only [greatest] at same
    split at same
    · rename_i below
      obtain ⟨u, -, rfl⟩ := List.mem_map.1 (List.max?_eq_some_iff.1 greatest).1
      have above := (List.max?_eq_some_iff.1 greatest).2 _ listed
      have low := Int64.le_toInt u.id.val
      have key : (Int64.ofInt (u.id.val.toInt + 1)).toInt = u.id.val.toInt + 1 :=
        Int64.toInt_ofInt_of_le (by omega) (by unfold largestKey at below; omega)
      rw [same, key] at above
      omega
    · exact freeTenantId_new room t ht same

theorem Registers.counted (step : Registers db after) (h : db.Counted) : after.Counted := by
  cases step with
  | nothing => exact h
  | tenant row new => exact h
  | application row new =>
    intro r hr
    change _ ≤ ((max db.lastApplication row.application.id.val.toInt.toNat : Nat) : Int)
    rcases mem_withApplication.1 hr with rfl | hr
    · omega
    · have before := h r hr
      omega

theorem Counted.nextApplicationId (h : db.Counted) (room : db.lastApplication < largestKey) :
    ∃ id, db.nextApplicationId = .ok id ∧ ∀ r ∈ db.applications, r.application.id ≠ id := by
  refine ⟨_, if_pos room, ?_⟩
  intro r hr same
  have low := h r hr
  have key : (Int64.ofNat (db.lastApplication + 1)).toInt = (db.lastApplication + 1 : Nat) :=
    Int64.toInt_ofNat_of_lt (by unfold largestKey at room; omega)
  rw [same, key] at low
  omega

theorem DirectoryConsistent.applicationOf?_eq (h : db.DirectoryConsistent) {t : TenantRow} (ht : t ∈ db.tenants)
    {application : Application} (owned : ⟨t.id, application⟩ ∈ db.applications) (domain : String) :
    db.applicationOf? domain application.resourceId = if domain = t.domain then some application else none := by
  split
  · rename_i same
    exact h.applicationOf?_eq_some_iff.2 ⟨rfl, t, ht, same.symm, owned⟩
  · rename_i foreign
    rw [Option.eq_none_iff_forall_ne_some]
    intro other found
    obtain ⟨sameResource, u, hu, rfl, otherOwned⟩ := h.applicationOf?_eq_some_iff.1 found
    have sameRow := h.eq_of_resourceId otherOwned owned sameResource
    have sameTenant : u = t :=
      List.inj_on_of_nodup_map h.tenantIds hu ht (congrArg ApplicationRow.tenant sameRow)
    exact foreign (congrArg TenantRow.domain sameTenant)

end Database

namespace Directory

variable {α : Type} {failure : DatabaseError → StorageError}
  {change : Database → Except DatabaseError (α × Database)}

theorem statement_atomic : (statement failure change).Atomic := Pool.transact_atomic failure _

theorem run_statement_eq_ok_iff {db : Database} {x : α} {q : Pool} :
    (statement failure change).run ⟨db, true⟩ = (.ok x, q) ↔
      ∃ after, change db = .ok (x, after) ∧ q = ⟨after, true⟩ := by
  cases changed : change db with
  | ok result =>
    have ran : (statement failure change).run ⟨db, true⟩ = (.ok result.1, ⟨result.2, true⟩) :=
      Pool.run_transact_ok (by rw [changed]; rfl)
    rw [ran]
    grind
  | error e =>
    have ran : (statement failure change).run ⟨db, true⟩ = (.error (failure e), ⟨db, true⟩) :=
      Pool.run_transact_error (by rw [changed]; rfl)
    rw [ran]
    grind

end Directory

namespace Registration

variable {α : Type} {p q : Pool} {db : Database}

/-- The answers that a request may have. Only a key that it leaves open is up to the directory. -/
def Suits : Registration α → α → Prop
  | .tenant _, _ => True
  | .tenantWithId id _, answer => answer = id
  | .application _ resourceId name, answer => answer.resourceId = resourceId ∧ answer.name = name
  | .applicationWithId id _ resourceId name, answer => answer = ⟨id, resourceId, name⟩

def entered (db : Database) : Registration α → α → Database
  | .tenant domain, answer => db.withTenant ⟨answer, domain⟩
  | .tenantWithId _ domain, answer => db.withTenant ⟨answer, domain⟩
  | .application owner _ _, answer => db.withApplication ⟨owner, answer⟩
  | .applicationWithId _ owner _ _, answer => db.withApplication ⟨owner, answer⟩

/-- The directory has a key to give where the request leaves it open. -/
def HasRoom (db : Database) : Registration α → Prop
  | .tenant _ => db.HasTenantKey
  | .application .. => db.lastApplication < largestKey
  | _ => True

def ApplicationResolves (p : Pool) (owner : TenantId) (resourceId : String) (answer : Application) : Prop :=
  ∃ domain, (Directory.tenantId domain).run p = (.ok (some owner), p) ∧
    ∀ other, (Directory.applicationByResourceId other resourceId).run p =
      (.ok (if other = domain then some answer else none), p)

def Resolves (p : Pool) : Registration α → α → Prop
  | .tenant domain, answer => (Directory.tenantId domain).run p = (.ok (some answer), p)
  | .tenantWithId _ domain, answer => (Directory.tenantId domain).run p = (.ok (some answer), p)
  | .application owner resourceId _, answer => ApplicationResolves p owner resourceId answer
  | .applicationWithId _ owner resourceId _, answer => ApplicationResolves p owner resourceId answer

def Stored (db : Database) : Registration α → α → Prop
  | .tenant domain, answer => ⟨answer, domain⟩ ∈ db.tenants
  | .tenantWithId _ domain, answer => ⟨answer, domain⟩ ∈ db.tenants
  | .application owner resourceId _, answer => answer.resourceId = resourceId ∧ ⟨owner, answer⟩ ∈ db.applications
  | .applicationWithId _ owner resourceId _, answer =>
    answer.resourceId = resourceId ∧ ⟨owner, answer⟩ ∈ db.applications

def Chosen (db : Database) : Registration α → α → Prop
  | .tenant _, answer => answer = db.nextTenantId
  | .tenantWithId id _, answer => answer = id
  | .application _ resourceId name, answer =>
    db.nextApplicationId = .ok answer.id ∧ answer.resourceId = resourceId ∧ answer.name = name
  | .applicationWithId id _ resourceId name, answer => answer = ⟨id, resourceId, name⟩

theorem Chosen.suits {request : Registration α} {answer : α} (chosen : request.Chosen db answer) :
    request.Suits answer := by
  cases request with
  | tenant domain => trivial
  | application owner resourceId name => exact chosen.2
  | _ => exact chosen

theorem Chosen.stored {request : Registration α} {answer : α} (chosen : request.Chosen db answer) :
    request.Stored (request.entered db answer) answer := by
  cases request with
  | tenant domain => exact List.mem_append_right _ (List.mem_singleton_self _)
  | tenantWithId id domain => exact List.mem_append_right _ (List.mem_singleton_self _)
  | application owner resourceId name => exact ⟨chosen.2.1, Database.mem_withApplication.2 (.inl rfl)⟩
  | applicationWithId id owner resourceId name =>
    exact ⟨congrArg Application.resourceId chosen, Database.mem_withApplication.2 (.inl rfl)⟩

/-- Where any answer to a request would keep the constraints, the one that the directory chooses does. -/
theorem exists_chosen (h : db.DirectoryConsistent) (counted : db.Counted) {request : Registration α}
    (room : request.HasRoom db) {answer : α} (suits : request.Suits answer)
    (kept : (request.entered db answer).DirectoryConsistent) :
    ∃ chosen, request.Chosen db chosen ∧ (request.entered db chosen).DirectoryConsistent := by
  cases request with
  | tenant domain =>
    have new := h.withTenant_iff.1 kept
    exact ⟨db.nextTenantId, rfl, h.withTenant_iff.2 ⟨Database.nextTenantId_new room, new.domain⟩⟩
  | application owner resourceId name =>
    have new := h.withApplication_iff.1 kept
    obtain ⟨id, next, apart⟩ := counted.nextApplicationId room
    obtain ⟨_, _, _⟩ := answer
    obtain ⟨rfl, rfl⟩ := suits
    exact ⟨⟨id, _, _⟩, ⟨next, rfl, rfl⟩, h.withApplication_iff.2 ⟨apart, new.name, new.resourceId, new.owner⟩⟩
  | _ => exact ⟨answer, suits, kept⟩

theorem perform_eq_ok_iff (h : p.Healthy) (request : Registration α) {answer : α} :
    request.perform.run p = (.ok answer, q) ↔
      request.Chosen p.database answer ∧ (request.entered p.database answer).DirectoryConsistent ∧
        q = ⟨request.entered p.database answer, true⟩ := by
  have consistent := h.consistent.toDirectoryConsistent
  have intact := h.consistent.intact
  rw [h.eq_open]
  cases request with
  | tenant domain =>
    simp only [perform, Directory.registerTenant, Directory.run_statement_eq_ok_iff, intact.need, bind_eq_ok_iff,
      pure_eq_ok_iff, Prod.mk.injEq, Database.insertTenant_eq_ok_iff, entered, consistent.withTenant_iff, Chosen]
    grind
  | tenantWithId id domain =>
    simp only [perform, Directory.registerTenantWithId, Directory.run_statement_eq_ok_iff, intact.need,
      bind_eq_ok_iff, pure_eq_ok_iff, Prod.mk.injEq, Database.insertTenant_eq_ok_iff, entered,
      consistent.withTenant_iff, Chosen]
    grind
  | application owner resourceId name =>
    obtain ⟨id, _, _⟩ := answer
    simp only [perform, Directory.registerApplication, Directory.run_statement_eq_ok_iff, intact.need,
      intact.needParents, bind_eq_ok_iff, pure_eq_ok_iff, Prod.mk.injEq, Database.insertApplication_eq_ok_iff, entered,
      consistent.withApplication_iff, Chosen, Application.mk.injEq]
    grind
  | applicationWithId id owner resourceId name =>
    simp only [perform, Directory.registerApplicationWithId, Directory.run_statement_eq_ok_iff, intact.need,
      intact.needParents, bind_eq_ok_iff, pure_eq_ok_iff, Prod.mk.injEq, Database.insertApplication_eq_ok_iff, entered,
      consistent.withApplication_iff, Chosen]
    grind

def after (requests : List ((α : Type) × Registration α)) (p : Pool) : Pool :=
  requests.foldl (fun p request => (request.2.perform.run p).2) p

structure Enrolled (p : Pool) : Prop extends p.Healthy where
  counted : p.database.Counted

theorem Enrolled.registers (h : Enrolled p) (step : Pool.Registers p q) : Enrolled q :=
  ⟨h.toHealthy.registers step, step.2.counted h.counted⟩

theorem Enrolled.after (h : Enrolled p) (requests : List ((α : Type) × Registration α)) :
    Enrolled (after requests p) :=
  List.foldlRecOn requests _ h fun _ h request _ => h.registers (request.2.perform_registers _)

theorem empty_enrolled : Enrolled .empty := ⟨.empty, nofun⟩

theorem Stored.registers {request : Registration α} {answer : α} (stored : request.Stored p.database answer)
    (step : Pool.Registers p q) : request.Stored q.database answer := by
  cases request with
  | application owner resourceId name => exact ⟨stored.1, step.2.applications _ stored.2⟩
  | applicationWithId id owner resourceId name => exact ⟨stored.1, step.2.applications _ stored.2⟩
  | _ => exact step.2.tenants _ stored

theorem Stored.after {request : Registration α} {answer : α} (stored : request.Stored p.database answer)
    (requests : List ((α : Type) × Registration α)) : request.Stored (after requests p).database answer :=
  List.foldlRecOn (motive := fun (p : Pool) => request.Stored p.database answer) requests _ stored
    fun _ stored later _ => stored.registers (later.2.perform_registers _)

theorem tenantId_of_mem (h : p.Healthy) {t : TenantRow} (ht : t ∈ p.database.tenants) :
    (Directory.tenantId t.domain).run p = (.ok (some t.id), p) := by
  rw [h.eq_open, h.consistent.intact.run_tenantId,
    h.consistent.toDirectoryConsistent.tenantOf?_eq_some_iff.2 ⟨t, ht, rfl, rfl⟩]

theorem applicationResolves_of_mem (h : p.Healthy) {owner : TenantId} {answer : Application}
    (owned : ⟨owner, answer⟩ ∈ p.database.applications) : ApplicationResolves p owner answer.resourceId answer := by
  have consistent := h.consistent.toDirectoryConsistent
  obtain ⟨t, ht, rfl⟩ := consistent.owners _ owned
  refine ⟨t.domain, tenantId_of_mem h ht, fun other => ?_⟩
  rw [h.eq_open, h.consistent.intact.run_applicationByResourceId, consistent.applicationOf?_eq ht owned]

theorem Stored.resolves (h : p.Healthy) {request : Registration α} {answer : α}
    (stored : request.Stored p.database answer) : request.Resolves p answer := by
  cases request with
  | tenant domain => exact tenantId_of_mem h stored
  | tenantWithId id domain => exact tenantId_of_mem h stored
  | application owner resourceId name =>
    obtain ⟨rfl, owned⟩ := stored
    exact applicationResolves_of_mem h owned
  | applicationWithId id owner resourceId name =>
    obtain ⟨rfl, owned⟩ := stored
    exact applicationResolves_of_mem h owned

theorem perform_atomic (request : Registration α) : request.perform.Atomic := by
  cases request <;> (unfold perform; exact Directory.statement_atomic)

/-- After any registrations the constraints of the directory hold. The next one goes through just if they can hold
    with its row, its answer is found from there on, and it leaves everything as it was if it fails. -/
theorem kept_and_resolved (requests : List ((α : Type) × Registration α)) :
    let p := after requests .empty
    p.database.DirectoryConsistent ∧ ∀ (α : Type) (request : Registration α),
      (request.HasRoom p.database →
        ((∃ answer q, request.perform.run p = (.ok answer, q)) ↔
          ∃ answer, request.Suits answer ∧ (request.entered p.database answer).DirectoryConsistent)) ∧
      (∀ answer q, request.perform.run p = (.ok answer, q) →
        request.Suits answer ∧ q = ⟨request.entered p.database answer, true⟩ ∧
          ∀ later, request.Resolves (after later q) answer) ∧
      ∀ e q, request.perform.run p = (.error e, q) → q = p := by
  intro p
  have h : Enrolled p := empty_enrolled.after requests
  have consistent := h.consistent.toDirectoryConsistent
  refine ⟨consistent, fun α request => ⟨fun room => ⟨?_, ?_⟩, ?_, ?_⟩⟩
  · rintro ⟨answer, q, ran⟩
    obtain ⟨chosen, kept, -⟩ := (perform_eq_ok_iff h.toHealthy request).1 ran
    exact ⟨answer, chosen.suits, kept⟩
  · rintro ⟨answer, suits, kept⟩
    obtain ⟨answer, chosen, kept⟩ := exists_chosen consistent h.counted room suits kept
    exact ⟨answer, _, (perform_eq_ok_iff h.toHealthy request).2 ⟨chosen, kept, rfl⟩⟩
  · intro answer q ran
    have step := request.perform_registers p
    rw [ran] at step
    obtain ⟨chosen, -, rfl⟩ := (perform_eq_ok_iff h.toHealthy request).1 ran
    refine ⟨chosen.suits, rfl, fun later => ?_⟩
    have stays := (h.registers step).after later
    exact (chosen.stored.after later).resolves stays.toHealthy
  · exact fun e q ran => request.perform_atomic p e q ran

theorem first_application_kept :
    let p := after [⟨_, .tenant "acme.example"⟩] .empty
    let request := Registration.application ⟨1⟩ "portal" "Portal"
    request.HasRoom p.database ∧
      ∃ answer q, request.perform.run p = (.ok answer, q) ∧ ∀ later, request.Resolves (after later q) answer := by
  intro p request
  have room : request.HasRoom p.database := by
    change 0 < largestKey
    decide
  obtain ⟨consistent, each⟩ := kept_and_resolved [⟨_, .tenant "acme.example"⟩]
  obtain ⟨goesThrough, found, -⟩ := each _ request
  have new : p.database.NewApplication ⟨⟨1⟩, ⟨1⟩, "portal", "Portal"⟩ :=
    ⟨nofun, nofun, nofun, ⟨⟨⟨1⟩, "acme.example"⟩, List.mem_singleton_self _, rfl⟩⟩
  obtain ⟨answer, q, ran⟩ := (goesThrough room).2 ⟨_, ⟨rfl, rfl⟩, consistent.withApplication_iff.2 new⟩
  exact ⟨room, answer, q, ran, (found answer q ran).2.2⟩

end Registration

end OriginRegistry
