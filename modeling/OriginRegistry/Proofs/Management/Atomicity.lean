import OriginRegistry.Proofs.Management.Runs

set_option autoImplicit false

namespace OriginRegistry

open OriginStore.Tables

variable {α : Type} {source : Source}

namespace OriginRequest

def upTo (n : Nat) : OriginRequest α → OriginRequest α
  | .setTenant tenant origins => .setTenant tenant (origins.take n)
  | .setApplication tenant application origins => .setApplication tenant application (origins.take n)
  | .addTenant tenant origins => .addTenant tenant (origins.take n)
  | .addApplication tenant application origins => .addApplication tenant application (origins.take n)
  | .deleteTenant tenant ids => .deleteTenant tenant (ids.take n)
  | .deleteApplication tenant application ids => .deleteApplication tenant application (ids.take n)
  | request => request

section Lists

variable {ε σ ζ : Type} {f : σ → Origin → Except ε σ} {xs : List Origin} {s : σ}

theorem foldlM_fails_at {e : ε} (failed : xs.foldlM f s = .error e) :
    ∃ n mid, (xs.take n).foldlM f s = .ok mid ∧ (xs.take (n + 1)).foldlM f s = .error e := by
  induction xs generalizing s with
  | nil => cases failed
  | cons x xs ih =>
    rw [List.foldlM_cons] at failed
    cases first : f s x with
    | error e' =>
      rw [first] at failed
      refine ⟨0, s, rfl, ?_⟩
      rw [List.take_succ_cons, List.foldlM_cons, first]
      exact failed
    | ok next =>
      rw [first, ok_bind] at failed
      obtain ⟨n, mid, far, stuck⟩ := ih failed
      refine ⟨n + 1, mid, ?_, ?_⟩
      · rw [List.take_succ_cons, List.foldlM_cons, first, ok_bind, far]
      · rw [List.take_succ_cons, List.foldlM_cons, first, ok_bind, stuck]

theorem steps_fail_at (change : List Origin → Except ζ σ) {refuse : ε → ζ}
    (steps : ∀ xs, change xs = (xs.foldlM f s).mapError refuse) {e : ζ} (failed : change xs = .error e) :
    ∃ n mid, change (xs.take n) = .ok mid ∧ change (xs.take (n + 1)) = .error e := by
  rw [steps] at failed
  cases folded : xs.foldlM f s with
  | ok after =>
    rw [folded] at failed
    cases failed
  | error cause =>
    rw [folded] at failed
    obtain ⟨n, mid, far, stuck⟩ := foldlM_fails_at folded
    refine ⟨n, mid, ?_, ?_⟩
    · rw [steps, far, ok_mapError]
    · rw [steps, stuck]
      exact failed

end Lists

variable {db : Database} {e : StorageError}

/-- A request that fails gets as far as some item of its list: up to there it would have been made. -/
theorem changeIn_fails_at (h : db.Intact) {request : OriginRequest α} (failed : request.changeIn source db = .error e) :
    ∃ n mid, (request.upTo n).changeIn source db = .ok mid ∧
      (request.upTo (n + 1)).changeIn source db = .error e := by
  cases request with
  | setTenant tenant origins =>
    have steps : ∀ xs, changeIn source (.setTenant tenant xs) db =
        (xs.foldlM (keepAtTenantLevel source tenant)
          ((db.lower fun o => o.tenant = tenant).sweep tenant)).mapError (adding tenant) := by
      intro xs
      rw [changeIn, setTenantIn_eq h]
    exact steps_fail_at _ steps failed
  | setApplication tenant application origins =>
    have steps : ∀ xs, changeIn source (.setApplication tenant application xs) db =
        (xs.foldlM (use source tenant application) ((db.unlink fun a => a.application = application &&
          db.origins.any fun o => o.id = a.origin && o.tenant = tenant).sweep tenant)).mapError (adding tenant) := by
      intro xs
      rw [changeIn, setApplicationIn_eq h]
    exact steps_fail_at _ steps failed
  | addTenant tenant origins =>
    exact steps_fail_at (fun xs => changeIn source (.addTenant tenant xs) db) (fun _ => rfl) failed
  | addApplication tenant application origins =>
    exact steps_fail_at (fun xs => changeIn source (.addApplication tenant application xs) db)
      (fun _ => rfl) failed
  | deleteTenant tenant ids =>
    rw [changeIn, deleteTenantIn_eq h] at failed
    cases failed
  | deleteApplication tenant application ids =>
    rw [changeIn, deleteApplicationIn_eq h] at failed
    cases failed
  | byTenant | byApplication | byId | byExternalId | applications => cases failed

end OriginRequest

namespace OriginStore.Tables

theorem change_atomic (refuse : DatabaseError → StorageError) (f : Database → Except StorageError Database) :
    (OriginStore.Tables.change refuse f).Atomic := Pool.transact_atomic refuse _

theorem retrieve_reads {β : Type} (key : String) (p : Database → OriginRow → Bool)
    (select : List RegisteredOrigin → β) : (retrieve key p select).Reads := Pool.query_reads _ _

end OriginStore.Tables

theorem OriginRequest.answer_atomic (request : OriginRequest α) : ((store source).answer request).Atomic := by
  cases request with
  | setTenant tenant origins =>
    exact change_atomic (adding tenant) fun db => (setTenantIn source tenant origins db).mapError (adding tenant)
  | setApplication tenant application origins =>
    exact change_atomic (adding tenant) fun db =>
      (setApplicationIn source tenant application origins db).mapError (adding tenant)
  | addTenant tenant origins =>
    exact change_atomic (adding tenant) fun db => (addTenantIn source tenant origins db).mapError (adding tenant)
  | addApplication tenant application origins =>
    exact change_atomic (adding tenant) fun db =>
      (addApplicationIn source tenant application origins db).mapError (adding tenant)
  | deleteTenant tenant ids => exact change_atomic (deleting tenant) (deleteTenantIn tenant ids)
  | deleteApplication tenant application ids =>
    exact change_atomic (deleting tenant) (deleteApplicationIn tenant application ids)
  | byTenant tenant => exact (retrieve_reads (tenantKey tenant) (fun _ o => o.tenant = tenant) id).atomic
  | byApplication tenant application =>
    exact (retrieve_reads (tenantKey tenant)
      (fun db o => o.tenant = tenant && db.associations.contains ⟨o.id, application⟩) id).atomic
  | byId id => exact (retrieve_reads (toString id) (fun _ o => o.id = id) List.head?).atomic
  | byExternalId id => exact (retrieve_reads (toString id) (fun _ o => o.externalId = id) List.head?).atomic
  | applications id =>
    have asked : (OriginStore.Tables.applications id).Reads := Pool.query_reads _ _
    exact asked.atomic

namespace Management

theorem ask_atomic (key : String) (request : OriginRequest α) : ((onTables source).ask key request).Atomic :=
  Action.Atomic.mapError request.answer_atomic _

theorem changeFor_atomic (c : OriginChange) (tenant : TenantId) (scope : Scope) :
    ((onTables source).changeFor c tenant scope).Atomic := by
  have answers : ∀ {β : Type} (x : Except ManagementError β), (Action.answer x : Action Pool _ _).Reads := by
    intro β x p
    rfl
  unfold changeFor
  cases c.kind with
  | set => exact Action.Atomic.bind (answers _) fun _ => ask_atomic _ _
  | add =>
    refine Action.Atomic.bind (answers _) fun _ => Action.Atomic.bind (list_reads _ _ _) fun _ => ?_
    exact Action.Atomic.bind (answers _) fun _ => ask_atomic _ _
  | delete =>
    refine Action.Atomic.bind (list_reads _ _ _) fun _ => ?_
    exact Action.Atomic.bind (answers _) fun _ => ask_atomic _ _

theorem change_atomic (c : OriginChange) : ((onTables source).change c).Atomic := by
  rw [change_eq]
  refine Action.Atomic.bind (resolveTenant_reads _) fun tenant => ?_
  exact Action.Atomic.bind (resolveScope_reads _ _) fun scope => changeFor_atomic c tenant scope

end Management

/-- A request or a change that fails leaves everything as it was, on any database. A request that fails on open tables
    does so at some item of its list, after all before it could be done. -/
theorem failed_change_undone (source : Source) (p : Pool) :
    (∀ {α : Type} (request : OriginRequest α) (e : StorageError) (q : Pool),
      ((store source).answer request).run p = (.error e, q) →
        q = p ∧ (p.isOpen = true → p.database.Intact → ∃ n x mid,
          ((store source).answer (request.upTo n)).run p = (.ok x, mid) ∧
            ((store source).answer (request.upTo (n + 1))).run p = (.error e, p))) ∧
      ∀ (c : OriginChange) (e : ManagementError) (q : Pool),
        ((Management.onTables source).change c).run p = (.error e, q) → q = p := by
  refine ⟨fun request e q failed => ⟨request.answer_atomic p e q failed, fun isOpen intact => ?_⟩,
    fun c => Management.change_atomic c p⟩
  obtain ⟨db, _⟩ := p
  subst isOpen
  have refused : request.changeIn source db = .error e := by
    cases change : request.changeIn source db with
    | ok after =>
      obtain ⟨x, ran⟩ := OriginRequest.answer_ok intact change
      rw [ran] at failed
      cases failed
    | error cause =>
      rw [OriginRequest.answer_error change] at failed
      rw [Except.error.inj (congrArg Prod.fst failed)]
  obtain ⟨n, mid, far, stuck⟩ := OriginRequest.changeIn_fails_at intact refused
  obtain ⟨x, ran⟩ := OriginRequest.answer_ok intact far
  exact ⟨n, x, _, ran, OriginRequest.answer_error stuck⟩

def oneUsed : Pool :=
  ⟨{ tenants := [⟨⟨1⟩, "a.com"⟩]
     applications := [⟨⟨1⟩, ⟨1⟩, "app", "App"⟩]
     lastApplication := 1
     origins := [⟨⟨1⟩, ⟨1⟩, ⟨"http://foo.com"⟩, ⟨""⟩, false⟩]
     lastOrigin := 1
     associations := [⟨⟨1⟩, ⟨1⟩⟩]
     drawn := 1 }, true⟩

/-- The application gives the origin up, so that it goes, and takes a new one twice. The second time the association is
    there already, and all of it is undone. -/
theorem oneUsed_repeated_undone :
    ((store .strokes).answer (.setApplication ⟨1⟩ ⟨1⟩ [⟨"http://bar.com"⟩, ⟨"http://bar.com"⟩])).run oneUsed =
      (.error (adding ⟨1⟩ (.duplicate .association)), oneUsed) := by
  have failed : ((store .strokes).answer (.setApplication ⟨1⟩ ⟨1⟩ [⟨"http://bar.com"⟩, ⟨"http://bar.com"⟩])).run
      oneUsed = (.error (adding ⟨1⟩ (.duplicate .association)), _) := Prod.ext (by rfl) rfl
  rw [failed, ((failed_change_undone .strokes oneUsed).1 _ _ _ failed).1]

end OriginRegistry
