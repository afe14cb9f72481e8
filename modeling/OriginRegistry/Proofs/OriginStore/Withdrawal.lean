import OriginRegistry.Proofs.OriginStore.NewRows
import OriginRegistry.Proofs.OriginStore.Requests

set_option autoImplicit false

namespace OriginRegistry

namespace Database

def withdraw (db : Database) (tenant : TenantId) (ids : List OriginId) : Scope → Database
  | .tenantLevel => (db.lower fun o => o.tenant = tenant && ids.contains o.id).sweep tenant
  | .application a => (db.unlink fun x => x.application = a && ids.contains x.origin).sweep tenant

/-- What is left once a scope is taken from the listed origins. The rows of other tenants all stay, although the
    application may not use them any more. -/
structure Withdrawn (tenant : TenantId) (scope : Scope) (ids : List OriginId) (before after : Database) : Prop where
  associations : after.associations = before.associations.filter fun a =>
    ¬ (scope = .application a.application ∧ a.origin ∈ ids)
  rows : ∀ r, r ∈ after.origins ↔
    (∃ o ∈ before.origins, r = { o with
        tenantLevel := o.tenantLevel && ¬ (scope = .tenantLevel ∧ o.tenant = tenant ∧ o.id ∈ ids) }) ∧
      (r.tenant = tenant → ∃ left, after.Carries r left)
  order : (after.origins.map OriginRow.id).Sublist (before.origins.map OriginRow.id)
  others : after = { before with origins := after.origins, associations := after.associations }

variable {db : Database} {tenant : TenantId} {scope : Scope} {ids others : List OriginId}

theorem withdraw_congr (same : ∀ id, id ∈ others ↔ id ∈ ids) (tenant : TenantId) (scope : Scope) :
    db.withdraw tenant others scope = db.withdraw tenant ids scope := by
  have listed (id : OriginId) : others.contains id = ids.contains id := by
    rw [Bool.eq_iff_iff, List.contains_iff_mem, List.contains_iff_mem, same]
  cases scope <;> simp only [withdraw, listed]

/-- A row of the tenant stays just if something is left that uses it. -/
theorem mem_sweep_iff_carries {o : OriginRow} :
    o ∈ (db.sweep tenant).origins ↔
      o ∈ db.origins ∧ (o.tenant = tenant → ∃ left, (db.sweep tenant).Carries o left) := by
  have kept (left : Scope) : (db.sweep tenant).Carries o left ↔ db.Carries o left := carries_congr rfl
  simp only [mem_sweep, not_and, kept, ← not_isDangling_iff, Bool.not_eq_true]

theorem withdraw_withdrawn (db : Database) (tenant : TenantId) (scope : Scope) (ids : List OriginId) :
    Withdrawn tenant scope ids db (db.withdraw tenant ids scope) := by
  cases scope with
  | tenantLevel =>
    constructor
    case associations => simp [withdraw, sweep, lower, relevel]
    case rows =>
      intro r
      rw [withdraw, mem_sweep_iff_carries, lower, mem_relevel]
      refine and_congr_left fun _ => exists_congr fun o => and_congr_right fun _ => ?_
      rw [eq_comm]
      simp
    case order =>
      refine (List.filter_sublist.map _).trans ?_
      rw [lower, relevel_map _ _ fun _ _ => rfl]
    case others => rfl
  | application a =>
    constructor
    case associations =>
      refine List.filter_congr fun x _ => ?_
      simp [eq_comm]
    case rows =>
      intro r
      rw [withdraw, mem_sweep_iff_carries]
      refine and_congr_left fun _ => ?_
      simp [unlink]
    case order => exact List.filter_sublist.map _
    case others => rfl

end Database

namespace OriginRequest

open Database OriginStore.Tables

variable {source : Source} {db : Database}

/-- Deletions always succeed, and what they leave depends on the set of keys alone. -/
theorem delete_withdraws (source : Source) (h : db.Intact) (tenant : TenantId) (application : ApplicationId)
    (ids : List OriginId) :
    (∃ after, (∀ others, (∀ id, id ∈ others ↔ id ∈ ids) →
        ((store source).answer (.deleteTenant tenant others)).run ⟨db, true⟩ = (.ok (), ⟨after, true⟩)) ∧
      Withdrawn tenant .tenantLevel ids db after) ∧
    ∃ after, (∀ others, (∀ id, id ∈ others ↔ id ∈ ids) →
        ((store source).answer (.deleteApplication tenant application others)).run ⟨db, true⟩ =
          (.ok (), ⟨after, true⟩)) ∧
      Withdrawn tenant (.application application) ids db after := by
  refine ⟨⟨_, fun others same => ?_, withdraw_withdrawn db tenant .tenantLevel ids⟩,
    ⟨_, fun others same => ?_, withdraw_withdrawn db tenant (.application application) ids⟩⟩
  · rw [← withdraw_congr same]
    exact run_change_ok (deleteTenantIn_eq h tenant others)
  · rw [← withdraw_congr same]
    exact run_change_ok (deleteApplicationIn_eq h tenant application others)

/-- A row that both scopes use stays, one that dangled before goes, and the row of the other tenant loses its use. -/
theorem mixed_withdrawn :
    (∃ after, ((store .strokes).answer (.deleteTenant ⟨1⟩ [⟨5⟩, ⟨1⟩, ⟨9⟩, ⟨1⟩])).run ⟨mixed, true⟩ =
        (.ok (), ⟨after, true⟩) ∧
      Withdrawn ⟨1⟩ .tenantLevel [⟨1⟩, ⟨5⟩, ⟨9⟩] mixed after) ∧
    ∃ after, ((store .strokes).answer (.deleteApplication ⟨1⟩ ⟨1⟩ [⟨3⟩, ⟨5⟩, ⟨3⟩, ⟨1⟩])).run ⟨mixed, true⟩ =
        (.ok (), ⟨after, true⟩) ∧
      Withdrawn ⟨1⟩ (.application ⟨1⟩) [⟨1⟩, ⟨3⟩, ⟨5⟩] mixed after := by
  obtain ⟨⟨level, answered, offLevel⟩, _⟩ := delete_withdraws .strokes mixed_consistent.intact ⟨1⟩ ⟨1⟩ [⟨1⟩, ⟨5⟩, ⟨9⟩]
  obtain ⟨_, unused, deleted, unlinked⟩ := delete_withdraws .strokes mixed_consistent.intact ⟨1⟩ ⟨1⟩ [⟨1⟩, ⟨3⟩, ⟨5⟩]
  refine ⟨⟨level, answered _ fun id => ?_, offLevel⟩, unused, deleted _ fun id => ?_, unlinked⟩
  · simp only [List.mem_cons, List.not_mem_nil, or_false]
    tauto
  · simp only [List.mem_cons, List.not_mem_nil, or_false]
    tauto

end OriginRequest

end OriginRegistry
