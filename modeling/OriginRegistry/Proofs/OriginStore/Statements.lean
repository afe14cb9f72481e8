import Mathlib.Data.List.Nodup
import OriginRegistry.OriginStore.Tables
import OriginRegistry.Proofs.Action

set_option autoImplicit false

namespace OriginRegistry.Database

def Intact (db : Database) : Prop := db.dropped = []

def relevel (db : Database) (level : OriginRow → Bool) : Database :=
  { db with origins := db.origins.map fun o => { o with tenantLevel := level o } }

def lower (db : Database) (gone : OriginRow → Bool) : Database := db.relevel fun o => o.tenantLevel && !gone o

def unlink (db : Database) (drop : Association → Bool) : Database :=
  { db with associations := db.associations.filter fun a => !drop a }

def sweep (db : Database) (tenant : TenantId) : Database :=
  { db with origins := db.origins.filter fun o => !(o.tenant = tenant && db.isDangling o) }

def nextRow (source : Source) (db : Database) (tenant : TenantId) (origin : Origin) (level : Bool) : OriginRow :=
  ⟨⟨Int64.ofNat (db.lastOrigin + 1)⟩, tenant, origin, ⟨source.name db.drawn⟩, level⟩

def enter (source : Source) (db : Database) (tenant : TenantId) (origin : Origin) (level : Bool) : Database :=
  { db with
    origins := db.origins ++ [db.nextRow source tenant origin level]
    lastOrigin := db.lastOrigin + 1
    drawn := db.drawn + 1 }

def link (db : Database) (a : Association) : Database :=
  { db with associations := placeAssociation a db.associations }

structure Enterable (source : Source) (db : Database) (tenant : TenantId) (origin : Origin) : Prop where
  room : db.lastOrigin < largestKey
  newText : ∀ o ∈ db.origins, o.tenant = tenant → o.origin ≠ origin
  newName : ∀ o ∈ db.origins, o.externalId ≠ ⟨source.name db.drawn⟩

structure Linkable (db : Database) (a : Association) : Prop where
  new : a ∉ db.associations
  origin : ∃ o ∈ db.origins, o.id = a.origin
  application : ∃ r ∈ db.applications, r.application.id = a.application

variable {db : Database}

theorem Intact.has (h : db.Intact) (t : Table) : db.has t = true := by
  have hd : db.dropped = [] := h
  simp [Database.has, hd]

theorem Intact.need (h : db.Intact) (tables : List Table) : db.need tables = .ok () := by
  have hn : tables.find? (fun t => !db.has t) = none := by simp [h.has]
  simp only [Database.need, hn]

theorem Intact.needParents (h : db.Intact) (t : Table) : db.needParents t = .ok () := by
  have hn : t.parents.find? (fun p => !db.has p) = none := by simp [h.has]
  simp only [Database.needParents, hn]

theorem Intact.needBelow (h : db.Intact) (t : Table) (depth : Nat) : db.needBelow t depth = .ok () := by
  induction depth generalizing t with
  | zero => rfl
  | succ depth ih =>
    simp only [Database.needBelow, h.has, ↓reduceIte, h.needParents, ih, ok_bind]
    induction t.children with
    | nil => rfl
    | cons c cs each => exact each

theorem Intact.lower (h : db.Intact) (gone : OriginRow → Bool) : (db.lower gone).Intact := h

theorem Intact.unlink (h : db.Intact) (drop : Association → Bool) : (db.unlink drop).Intact := h

theorem clearTenantLevel_eq (h : db.Intact) (tenant : TenantId) :
    db.clearTenantLevel tenant = .ok (db.lower fun o => o.tenant = tenant) := by
  simp only [clearTenantLevel, h.need, ok_bind, lower, relevel]
  refine congrArg (fun origins => Except.ok { db with origins := origins }) (List.map_congr_left ?_)
  intro o _
  by_cases ho : o.tenant = tenant <;> simp [ho]

theorem clearTenantLevelOf_eq (h : db.Intact) (tenant : TenantId) (id : OriginId) :
    db.clearTenantLevelOf tenant id = .ok (db.lower fun o => o.tenant = tenant && o.id = id) := by
  simp only [clearTenantLevelOf, h.need, ok_bind, lower, relevel]
  refine congrArg (fun origins => Except.ok { db with origins := origins }) (List.map_congr_left ?_)
  intro o _
  by_cases ho : o.id = id ∧ o.tenant = tenant
  · simp [ho]
  · have stays : (decide (o.tenant = tenant) && decide (o.id = id)) = false := by
      rw [Bool.and_comm, ← Bool.decide_and]
      exact decide_eq_false ho
    simp only [ho, ↓reduceIte, stays, Bool.not_false, Bool.and_true]

theorem markTenantLevel_eq (h : db.Intact) (id : OriginId) :
    db.markTenantLevel id = .ok (db.relevel fun o => o.tenantLevel || o.id = id) := by
  simp only [markTenantLevel, h.need, ok_bind, relevel]
  refine congrArg (fun origins => Except.ok { db with origins := origins }) (List.map_congr_left ?_)
  intro o _
  by_cases ho : o.id = id <;> simp [ho]

theorem removeDangling_eq (h : db.Intact) (tenant : TenantId) :
    db.removeDangling tenant = .ok (db.sweep tenant) := by
  simp only [removeDangling, h.need, h.needBelow, ok_bind]
  rfl

theorem dissociate_eq (h : db.Intact) (origin : OriginId) (application : ApplicationId) :
    db.dissociate origin application =
      .ok (db.unlink fun a => a.origin = origin && a.application = application) := by
  simp only [dissociate, h.need, h.needParents, ok_bind]
  rfl

theorem dissociateAll_eq (h : db.Intact) (tenant : TenantId) (application : ApplicationId) :
    db.dissociateAll tenant application =
      .ok (db.unlink fun a =>
        a.application = application && db.origins.any fun o => o.id = a.origin && o.tenant = tenant) := by
  simp only [dissociateAll, h.need, h.needParents, ok_bind]
  rfl

theorem originOf?_eq (h : db.Intact) (tenant : TenantId) (origin : Origin) :
    db.originOf? tenant origin =
      .ok ((db.origins.find? fun o => o.tenant = tenant && o.origin = origin).map OriginRow.id) := by
  simp only [originOf?, h.need, ok_bind]
  rfl

theorem nextOriginId_eq_ok_iff {id : OriginId} :
    db.nextOriginId = .ok id ↔ db.lastOrigin < largestKey ∧ id = ⟨Int64.ofNat (db.lastOrigin + 1)⟩ := by
  unfold nextOriginId
  split_ifs with room <;> simp [room, eq_comm]

theorem insertOrigin_eq_ok_iff (h : db.Intact) {source : Source} {tenant : TenantId} {origin : Origin}
    {level : Bool} {id : OriginId} {after : Database} :
    db.insertOrigin source tenant origin level = .ok (id, after) ↔
      db.Enterable source tenant origin ∧ id = (db.nextRow source tenant origin level).id ∧
        after = db.enter source tenant origin level := by
  simp only [insertOrigin, h.need, ok_bind, bind_eq_ok_iff, nextOriginId_eq_ok_iff, ite_throw_eq_ok_iff,
    pure_eq_ok_iff, List.any_eq_true, Bool.and_eq_true, decide_eq_true_eq, Prod.mk.injEq]
  constructor
  · rintro ⟨_, ⟨room, rfl⟩, newText, newName, rfl, rfl⟩
    exact ⟨⟨room, fun o ho ht hx => newText ⟨o, ho, ht, hx⟩, fun o ho hx => newName ⟨o, ho, hx⟩⟩, rfl, rfl⟩
  · rintro ⟨⟨room, newText, newName⟩, rfl, rfl⟩
    exact ⟨_, ⟨room, rfl⟩, fun ⟨o, ho, ht, hx⟩ => newText o ho ht hx, fun ⟨o, ho, hx⟩ => newName o ho hx, rfl, rfl⟩

theorem associate_eq_ok_iff (h : db.Intact) {origin : OriginId} {application : ApplicationId} {after : Database} :
    db.associate origin application = .ok after ↔
      db.Linkable ⟨origin, application⟩ ∧ after = db.link ⟨origin, application⟩ := by
  have ho : (db.origins.all fun o => o.id ≠ origin) = true ↔ ¬ ∃ o ∈ db.origins, o.id = origin := by
    simp
  have ha : (db.applications.all fun r => r.application.id ≠ application) = true ↔
      ¬ ∃ r ∈ db.applications, r.application.id = application := by
    simp
  simp only [associate, h.need, h.needParents, ok_bind, List.contains_iff_mem, ho, ha, ite_throw_eq_ok_iff,
    pure_eq_ok_iff, not_not]
  constructor
  · rintro ⟨new, hasOrigin, hasApplication, rfl⟩
    exact ⟨⟨new, hasOrigin, hasApplication⟩, rfl⟩
  · rintro ⟨⟨new, hasOrigin, hasApplication⟩, rfl⟩
    exact ⟨new, hasOrigin, hasApplication, rfl⟩

end OriginRegistry.Database
