import OriginRegistry.PolicyStore.Resources
import OriginRegistry.Configuration.Tables
import OriginRegistry.Proofs.OriginStore.Edits

set_option autoImplicit false

namespace OriginRegistry

namespace Database

/-- All is as it was but for resources, their types and their attributes, and for the names that were drawn. -/
structure Configured (before after : Database) : Prop where
  tenants : after.tenants = before.tenants
  applications : after.applications = before.applications
  lastApplication : after.lastApplication = before.lastApplication
  origins : after.origins = before.origins
  lastOrigin : after.lastOrigin = before.lastOrigin
  associations : after.associations = before.associations
  dropped : after.dropped = before.dropped
  drawn : before.drawn ≤ after.drawn

variable {db mid after : Database} {source : Source}

theorem Configured.refl (db : Database) : Configured db db := ⟨rfl, rfl, rfl, rfl, rfl, rfl, rfl, Nat.le_refl _⟩

theorem Configured.trans (first : Configured db mid) (second : Configured mid after) : Configured db after where
  tenants := second.tenants.trans first.tenants
  applications := second.applications.trans first.applications
  lastApplication := second.lastApplication.trans first.lastApplication
  origins := second.origins.trans first.origins
  lastOrigin := second.lastOrigin.trans first.lastOrigin
  associations := second.associations.trans first.associations
  dropped := second.dropped.trans first.dropped
  drawn := Nat.le_trans first.drawn second.drawn

theorem configured_of (db : Database) (resourceTypes : List ResourceType) (resources : List ResourceRow)
    (attributes : List AttributeRow) {drawn : Nat} (more : db.drawn ≤ drawn) :
    Configured db { db with resourceTypes, resources, attributes, drawn } :=
  ⟨rfl, rfl, rfl, rfl, rfl, rfl, rfl, more⟩

theorem Configured.consistent (step : Configured db after) (h : db.Consistent) : after.Consistent where
  toDirectoryConsistent := h.toDirectoryConsistent.congr step.tenants step.applications
  toOriginsConsistent := by
    refine h.toOriginsConsistent.congr step.origins step.lastOrigin step.associations fun r hr => ?_
    rw [step.applications]
    exact hr
  intact := step.dropped.trans h.intact

theorem Configured.sameFor (step : Configured db after) (tenant : TenantId) : SameFor tenant db after where
  origins := by rw [originsOf, originsOf, step.origins]
  associations := by rw [associationsOf, associationsOf, step.origins, step.associations]

theorem Configured.oneTenant (step : Configured db after) (one : db.OneTenant) : after.OneTenant := by
  rw [OneTenant, step.origins, step.applications, step.associations]
  exact one

theorem insertType_configured {draft : ResourceTypeDraft} {made : ResourceType}
    (ok : db.insertType source draft = .ok (made, after)) : Configured db after := by
  simp only [insertType, bind_eq_ok_iff, ite_throw_eq_ok_iff, pure_eq_ok_iff, Prod.mk.injEq] at ok
  obtain ⟨_, _, _, _, rfl⟩ := ok
  exact configured_of db _ _ _ (Nat.le_succ _)

theorem now_configured (source : Source) (db : Database) : Configured db (db.now source).2 :=
  configured_of db _ _ _ (Nat.le_succ _)

theorem insertResource_configured {tenant : TenantId} {typeId name id : String} {time : Moment}
    (ok : db.insertResource source tenant typeId name time = .ok (id, after)) : Configured db after := by
  simp only [insertResource, bind_eq_ok_iff, ite_throw_eq_ok_iff, pure_eq_ok_iff, Prod.mk.injEq] at ok
  obtain ⟨_, _, _, _, _, _, rfl⟩ := ok
  exact configured_of db _ _ _ (Nat.le_succ _)

theorem touch_configured {resource : String} (ok : db.touch source resource = .ok after) : Configured db after := by
  simp only [touch, bind_eq_ok_iff, pure_eq_ok_iff] at ok
  obtain ⟨_, _, rfl⟩ := ok
  exact (now_configured source db).trans (configured_of _ _ _ _ (Nat.le_refl _))

theorem insertAttribute_configured {resource : String} {entry : Attribute}
    (ok : db.insertAttribute resource entry = .ok after) : Configured db after := by
  simp only [insertAttribute, bind_eq_ok_iff, ite_throw_eq_ok_iff, pure_eq_ok_iff] at ok
  obtain ⟨_, _, _, _, _, rfl⟩ := ok
  exact configured_of db _ _ _ (Nat.le_refl _)

theorem deleteAttributes_configured {resource : String} {p : String → Bool}
    (ok : db.deleteAttributes resource p = .ok after) : Configured db after := by
  simp only [deleteAttributes, bind_eq_ok_iff, pure_eq_ok_iff] at ok
  obtain ⟨_, _, _, _, rfl⟩ := ok
  exact configured_of db _ _ _ (Nat.le_refl _)

end Database

namespace ConfigurationManager.Tables

open Database

variable {db after : Database} {source : Source}

theorem run_eq_ok_iff {α : Type} {x : Except DatabaseError α} {a : α} : run x = .ok a ↔ x = .ok a :=
  mapError_eq_ok_iff

theorem addTypeIn_configured {draft : ResourceTypeDraft} {made : ResourceType}
    (ok : addTypeIn source draft db = .ok (made, after)) : Configured db after := by
  rw [addTypeIn, bind_eq_ok_iff] at ok
  obtain ⟨found, _, ok⟩ := ok
  cases found with
  | some _ => cases ok
  | none => exact insertType_configured (run_eq_ok_iff.1 ok)

theorem freshResource_configured {tenant : TenantId} {typeId name id : String} {time createdAt : Moment}
    (ok : freshResource source tenant typeId name time db = .ok (id, createdAt, after)) : Configured db after := by
  rw [freshResource, bind_eq_ok_iff] at ok
  obtain ⟨found, _, ok⟩ := ok
  cases found with
  | some r =>
    simp only [bind_eq_ok_iff, pure_eq_ok_iff, Prod.mk.injEq] at ok
    obtain ⟨cleared, deleted, touched, ok, rfl, rfl, rfl⟩ := ok
    exact (deleteAttributes_configured deleted).trans (touch_configured ok)
  | none =>
    simp only [bind_eq_ok_iff, pure_eq_ok_iff, Prod.mk.injEq] at ok
    obtain ⟨⟨made, inserted⟩, ok, rfl, rfl, rfl⟩ := ok
    exact insertResource_configured ok

theorem insertAttributes_configured {resource : String} {entries : List Attribute}
    (ok : entries.foldlM (fun db entry => db.insertAttribute resource entry) db = .ok after) : Configured db after := by
  induction entries generalizing db with
  | nil =>
    obtain rfl := pure_eq_ok_iff.1 ok
    exact .refl db
  | cons entry entries ih =>
    rw [List.foldlM_cons, bind_eq_ok_iff] at ok
    obtain ⟨mid, first, rest⟩ := ok
    exact (insertAttribute_configured first).trans (ih rest)

theorem replaceIn_configured {tenant : TenantId} {resourceType : String} {draft : ResourceDraft} {made : Resource}
    (ok : replaceIn source tenant resourceType draft db = .ok (made, after)) : Configured db after := by
  simp only [replaceIn, bind_eq_ok_iff, pure_eq_ok_iff, run_eq_ok_iff, Prod.mk.injEq] at ok
  obtain ⟨_, _, ⟨id, createdAt, cleared⟩, fresh, filled, inserted, _, rfl⟩ := ok
  exact ((now_configured source db).trans (freshResource_configured fresh)).trans (insertAttributes_configured inserted)

theorem addAttributeIn_configured {tenant : TenantId} {resourceType name : String} {entry made : Attribute}
    (ok : addAttributeIn source tenant resourceType name entry db = .ok (made, after)) : Configured db after := by
  simp only [addAttributeIn, bind_eq_ok_iff, ite_throw_eq_ok_iff, pure_eq_ok_iff, run_eq_ok_iff, Prod.mk.injEq] at ok
  obtain ⟨_, _, _, _, _, mid, inserted, touched, ok, _, rfl⟩ := ok
  exact (insertAttribute_configured inserted).trans (touch_configured ok)

theorem deleteAttributeIn_configured {tenant : TenantId} {resourceType name key : String} {made : Unit}
    (ok : deleteAttributeIn source tenant resourceType name key db = .ok (made, after)) : Configured db after := by
  simp only [deleteAttributeIn, bind_eq_ok_iff, ite_throw_eq_ok_iff, pure_eq_ok_iff, run_eq_ok_iff,
    Prod.mk.injEq] at ok
  obtain ⟨_, _, mid, deleted, _, touched, ok, _, rfl⟩ := ok
  exact (deleteAttributes_configured deleted).trans (touch_configured ok)

end ConfigurationManager.Tables

def Pool.Configured (before after : Pool) : Prop :=
  after.isOpen = before.isOpen ∧ Database.Configured before.database after.database

namespace Pool.Configured

theorem refl (p : Pool) : Pool.Configured p p := ⟨rfl, .refl _⟩

theorem trans {p q r : Pool} (first : Pool.Configured p q) (second : Pool.Configured q r) : Pool.Configured p r :=
  ⟨second.1.trans first.1, first.2.trans second.2⟩

end Pool.Configured

variable {α : Type} (source : Source)

open ConfigurationManager.Tables in
theorem manager_configured (request : ConfigurationRequest α) :
    ((manager source).answer request).Within Pool.Configured := by
  cases request with
  | type name => exact Pool.query_within .refl _ _
  | addType draft =>
    exact Pool.transact_within .refl fun p _ _ ok => ⟨rfl, addTypeIn_configured ok⟩
  | resource tenant resourceType name => exact Pool.query_within .refl _ _
  | replace tenant resourceType draft =>
    exact Pool.transact_within .refl fun p _ _ ok => ⟨rfl, replaceIn_configured ok⟩
  | addAttribute tenant resourceType name entry =>
    exact Pool.transact_within .refl fun p _ _ ok => ⟨rfl, addAttributeIn_configured ok⟩
  | deleteAttribute tenant resourceType name key =>
    exact Pool.transact_within .refl fun p _ _ ok => ⟨rfl, deleteAttributeIn_configured ok⟩

open ConfigurationManager.Tables in
theorem ensureType_configured (draft : ResourceTypeDraft) :
    ((manager source).ensureType draft).Within Pool.Configured := by
  intro p
  have asked := manager_configured source (.type draft.name) p
  simp only [ConfigurationManager.ensureType, ExceptT.run_mk]
  split
  next missing =>
    rw [missing] at asked
    exact Pool.Configured.trans asked (manager_configured source (.addType draft) _)
  next => exact asked

open ConfigurationManager.Tables in
theorem resource?_configured (tenant : TenantId) (resourceType name : String) :
    ((manager source).resource? tenant resourceType name).Within Pool.Configured := by
  intro p
  have asked := manager_configured source (.resource tenant resourceType name) p
  simp only [ConfigurationManager.resource?, ExceptT.run_mk]
  split
  next missing =>
    rw [missing] at asked
    exact asked
  next => exact asked

open PolicyStore.Resources in
theorem policyStore_configured (request : PolicyRequest α) :
    ((store (ConfigurationManager.Tables.manager source)).answer request).Within Pool.Configured := by
  cases request with
  | policy tenant =>
    refine Action.Within.bind .trans (resource?_configured source tenant _ _) fun found => ?_
    cases found with
    | none => exact Pool.Configured.refl
    | some r => exact Action.Within.answer .refl _
  | setPolicy tenant p =>
    refine Action.Within.bind .trans (ensureType_configured source _) fun _ => ?_
    exact Action.Within.bind .trans (manager_configured source _) fun _ => Pool.Configured.refl

end OriginRegistry
