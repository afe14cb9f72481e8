import OriginRegistry.Proofs.OriginStore.Effects

set_option autoImplicit false

namespace OriginRegistry

namespace OriginRequest

open OriginStore.Tables

variable {α : Type}

def warrant? : OriginRequest α → Option Warrant
  | .setTenant tenant origins => some ⟨tenant, .tenantLevel, origins⟩
  | .setApplication tenant application origins => some ⟨tenant, .application application, origins⟩
  | .addTenant tenant origins => some ⟨tenant, .tenantLevel, origins⟩
  | .addApplication tenant application origins => some ⟨tenant, .application application, origins⟩
  | .deleteTenant tenant _ => some ⟨tenant, .tenantLevel, []⟩
  | .deleteApplication tenant application _ => some ⟨tenant, .application application, []⟩
  | _ => none

def withdraws : OriginRequest α → OriginRow → Bool
  | .setTenant tenant _ | .setApplication tenant _ _ => fun r => r.tenant = tenant
  | .deleteTenant tenant ids => fun r => r.tenant = tenant && ids.contains r.id
  | .deleteApplication _ _ ids => fun r => ids.contains r.id
  | _ => Database.noRow

def changeIn (source : Source) : OriginRequest α → Database → Except StorageError Database
  | .setTenant tenant origins, db => (setTenantIn source tenant origins db).mapError (adding tenant)
  | .setApplication tenant application origins, db =>
    (setApplicationIn source tenant application origins db).mapError (adding tenant)
  | .addTenant tenant origins, db => (addTenantIn source tenant origins db).mapError (adding tenant)
  | .addApplication tenant application origins, db =>
    (addApplicationIn source tenant application origins db).mapError (adding tenant)
  | .deleteTenant tenant ids, db => deleteTenantIn tenant ids db
  | .deleteApplication tenant application ids, db => deleteApplicationIn tenant application ids db
  | _, db => .ok db

/-- Whether a request takes an origin of another tenant from an application. -/
def CrossesIn : OriginRequest α → Database → Prop
  | .deleteApplication tenant application ids, db =>
    ∃ o ∈ db.origins, o.id ∈ ids ∧ ⟨o.id, application⟩ ∈ db.associations ∧ o.tenant ≠ tenant
  | _, _ => False

variable {source : Source} {w : Warrant} {db after : Database}

/-- A request that keeps to its tenant's rows is an effect of its warrant. -/
theorem effect_of_changeIn {request : OriginRequest α} (warrant : request.warrant? = some w) (h : db.Consistent)
    (inside : ¬ request.CrossesIn db) (ok : request.changeIn source db = .ok after) :
    Database.Effect source w request.withdraws w.origins db after := by
  cases request with
  | setTenant tenant origins =>
    cases warrant
    exact setTenantIn_effect h (mapError_eq_ok_iff.1 ok)
  | setApplication tenant application origins =>
    cases warrant
    exact setApplicationIn_effect h (mapError_eq_ok_iff.1 ok)
  | addTenant tenant origins =>
    cases warrant
    exact addTenantIn_effect h (mapError_eq_ok_iff.1 ok)
  | addApplication tenant application origins =>
    cases warrant
    exact addApplicationIn_effect h (mapError_eq_ok_iff.1 ok)
  | deleteTenant tenant ids =>
    cases warrant
    rw [changeIn, deleteTenantIn_eq h.intact] at ok
    cases ok
    exact Database.lower_effect h fun o _ away => of_decide_eq_true (Bool.and_eq_true_iff.1 away).1
  | deleteApplication tenant application ids =>
    cases warrant
    rw [changeIn, deleteApplicationIn_eq h.intact] at ok
    cases ok
    refine Database.unlink_effect h (fun r _ b => rfl) fun o ho away linked => ?_
    by_contra foreign
    exact inside ⟨o, ho, List.contains_iff_mem.1 away, linked, foreign⟩
  | byTenant | byApplication | byId | byExternalId | applications => cases warrant

/-- A request makes edits for its tenant, or it takes an origin of another from an application. -/
theorem changeIn_cases {request : OriginRequest α} (h : db.Consistent) (ok : request.changeIn source db = .ok after) :
    (∃ w, Database.Edits source w db after) ∨ ∃ drop tenant, after = (db.unlink drop).sweep tenant := by
  have effect : ∀ {w}, request.warrant? = some w → ¬ request.CrossesIn db → ∃ w, Database.Edits source w db after :=
    fun warrant inside => ⟨_, (effect_of_changeIn warrant h inside ok).edits⟩
  cases request with
  | setTenant | setApplication | addTenant | addApplication | deleteTenant => exact .inl (effect rfl id)
  | deleteApplication tenant application ids =>
    rw [changeIn, deleteApplicationIn_eq h.intact] at ok
    cases ok
    exact .inr ⟨_, tenant, rfl⟩
  | byTenant | byApplication | byId | byExternalId | applications =>
    cases ok
    exact .inl ⟨⟨⟨0⟩, .tenantLevel, []⟩, .refl⟩

theorem changeIn_consistent {request : OriginRequest α} (h : db.Consistent)
    (ok : request.changeIn source db = .ok after) : after.Consistent := by
  rcases changeIn_cases h ok with ⟨w, edits⟩ | ⟨drop, tenant, rfl⟩
  · exact edits.consistent h
  · exact (h.unlink drop).sweep tenant

theorem run_change_ok {refuse : DatabaseError → StorageError} {f : Database → Except StorageError Database}
    (ok : f db = .ok after) : (change refuse f).run ⟨db, true⟩ = (.ok (), ⟨after, true⟩) := by
  have changed : (f db).map (fun db => ((), db)) = .ok ((), after) := by rw [ok, Except.map]
  exact Pool.run_transact_ok changed

theorem run_change_error {refuse : DatabaseError → StorageError} {f : Database → Except StorageError Database}
    {e : StorageError} (failed : f db = .error e) : (change refuse f).run ⟨db, true⟩ = (.error e, ⟨db, true⟩) := by
  have unchanged : (f db).map (fun db => ((), db)) = .error e := by rw [failed, Except.map]
  exact Pool.run_transact_error unchanged

theorem run_retrieve {β : Type} (h : db.Intact) (key : String) (p : Database → OriginRow → Bool)
    (select : List RegisteredOrigin → β) :
    (retrieve key p select).run ⟨db, true⟩ = (.ok (select (db.listing (p db))), ⟨db, true⟩) := by
  rw [retrieve, Pool.run_query_open, list, h.need]
  rfl

theorem run_byTenant (h : db.Intact) (tenant : TenantId) :
    (OriginStore.Tables.byTenant tenant).run ⟨db, true⟩ =
      (.ok (db.listing fun o => o.tenant = tenant), ⟨db, true⟩) :=
  run_retrieve h _ _ _

theorem run_byApplication (h : db.Intact) (tenant : TenantId) (application : ApplicationId) :
    (OriginStore.Tables.byApplication tenant application).run ⟨db, true⟩ =
      (.ok (db.listing fun o => o.tenant = tenant && db.associations.contains ⟨o.id, application⟩), ⟨db, true⟩) :=
  run_retrieve h _ _ _

theorem run_applications (h : db.Intact) (id : OriginId) :
    (OriginStore.Tables.applications id).run ⟨db, true⟩ = (.ok (db.applicationsOf id), ⟨db, true⟩) := by
  rw [OriginStore.Tables.applications, Pool.run_query_open, h.need]
  rfl

theorem answer_ok (h : db.Intact) {request : OriginRequest α} (ok : request.changeIn source db = .ok after) :
    ∃ x, ((store source).answer request).run ⟨db, true⟩ = (.ok x, ⟨after, true⟩) := by
  cases request with
  | setTenant | setApplication | addTenant | addApplication | deleteTenant | deleteApplication =>
    exact ⟨(), run_change_ok ok⟩
  | byTenant tenant =>
    cases ok
    exact ⟨_, run_byTenant h tenant⟩
  | byApplication tenant application =>
    cases ok
    exact ⟨_, run_byApplication h tenant application⟩
  | byId id =>
    cases ok
    exact ⟨_, run_retrieve h (toString id) (fun _ o => o.id = id) List.head?⟩
  | byExternalId id =>
    cases ok
    exact ⟨_, run_retrieve h (toString id) (fun _ o => o.externalId = id) List.head?⟩
  | applications id =>
    cases ok
    exact ⟨_, run_applications h id⟩

theorem answer_error {request : OriginRequest α} {e : StorageError}
    (failed : request.changeIn source db = .error e) :
    ((store source).answer request).run ⟨db, true⟩ = (.error e, ⟨db, true⟩) := by
  cases request with
  | setTenant | setApplication | addTenant | addApplication | deleteTenant | deleteApplication =>
    exact run_change_error failed
  | byTenant | byApplication | byId | byExternalId | applications => cases failed

def leaves (source : Source) (request : OriginRequest α) (db : Database) : Database :=
  match request.changeIn source db with
  | .ok after => after
  | .error _ => db

theorem answer_leaves (h : db.Intact) (request : OriginRequest α) :
    (((store source).answer request).run ⟨db, true⟩).2 = ⟨request.leaves source db, true⟩ := by
  unfold leaves
  cases change : request.changeIn source db with
  | ok after =>
    obtain ⟨x, ran⟩ := answer_ok h change
    rw [ran]
  | error e => rw [answer_error change]

end OriginRequest

end OriginRegistry
