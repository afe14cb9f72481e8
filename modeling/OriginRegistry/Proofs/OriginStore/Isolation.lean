import OriginRegistry.Proofs.Directory.Registration
import OriginRegistry.Proofs.OriginStore.Requests

/-!
# Requests on behalf of a tenant

Keys of origins and applications are global, and the store is told a tenant beside them. A request touches nothing of
another tenant and leaves no origin without use, except when it takes an origin of another tenant from an application:
the statement behind it does not ask for the origin's tenant, and only the own tenant's origins are looked through for
those without use.
-/

set_option autoImplicit false

namespace OriginRegistry

inductive StoreEvent : Type 1
  | register {α : Type} (request : Registration α)
  | ask {α : Type} (request : OriginRequest α)

namespace StoreEvent

open Database

variable {α : Type} {source : Source}

def step (source : Source) (p : Pool) : StoreEvent → Pool
  | .register request => (request.perform.run p).2
  | .ask request => (((OriginStore.Tables.store source).answer request).run p).2

def after (source : Source) (events : List StoreEvent) : Pool := events.foldl (step source) .empty

theorem step_ask {p : Pool} (h : p.Healthy) (request : OriginRequest α) :
    step source p (.ask request) = ⟨request.leaves source p.database, true⟩ := by
  rw [h.eq_open]
  exact OriginRequest.answer_leaves h.consistent.intact request

theorem step_healthy {p : Pool} (h : p.Healthy) (event : StoreEvent) : (step source p event).Healthy := by
  cases event with
  | register request => exact h.registers (request.perform_registers p)
  | ask request =>
    rw [step_ask h]
    refine ⟨rfl, ?_⟩
    change (request.leaves source p.database).Consistent
    unfold OriginRequest.leaves
    cases change : request.changeIn source p.database with
    | ok after => exact OriginRequest.changeIn_consistent h.consistent change
    | error e => exact h.consistent

theorem after_healthy (source : Source) (events : List StoreEvent) : (after source events).Healthy :=
  List.foldlRecOn events (step source) Pool.Healthy.empty fun _ h event _ => step_healthy h event

end StoreEvent

namespace OriginRequest

open Database OriginStore.Tables

variable {α : Type} {source : Source} {db : Database} {w : Warrant}

theorem inside_keeps {request : OriginRequest α} (h : db.Consistent) (tidy : db.NoDangling)
    (warrant : request.warrant? = some w) (inside : ¬ request.CrossesIn db) :
    (∀ tenant, tenant ≠ w.tenant → SameFor tenant db (request.leaves source db)) ∧
      (request.leaves source db).NoDangling := by
  unfold leaves
  cases change : request.changeIn source db with
  | ok after =>
    have effect := effect_of_changeIn warrant h inside change
    exact ⟨fun tenant other => effect.edits.sameFor h other, effect.tidy tidy⟩
  | error e => exact ⟨fun tenant _ => .refl tenant db, tidy⟩

theorem crossing_reaches_other {request : OriginRequest α} (h : db.Consistent) (warrant : request.warrant? = some w)
    (crosses : request.CrossesIn db) :
    ∃ tenant, tenant ≠ w.tenant ∧ ¬ SameFor tenant db (request.leaves source db) := by
  cases request with
  | deleteApplication tenant application ids =>
    cases warrant
    obtain ⟨o, ho, named, linked, foreign⟩ := crosses
    refine ⟨o.tenant, foreign, fun same => ?_⟩
    have kept : (leaves source (.deleteApplication tenant application ids) db).Carries o (.application application) :=
      (same.carries_iff rfl ho).2 linked
    simp [Carries, leaves, changeIn, deleteApplicationIn_eq h.intact, unlink, sweep, named] at kept
  | _ => cases crosses

/-- In a state without useless origins, a request keeps to its tenant unless it crosses over to another. -/
theorem keeps_to_tenant_iff (source : Source) (events : List StoreEvent) {request : OriginRequest α}
    (tidy : (StoreEvent.after source events).database.NoDangling) (warrant : request.warrant? = some w) :
    ((∀ tenant, tenant ≠ w.tenant →
          SameFor tenant (StoreEvent.after source events).database
            (StoreEvent.step source (StoreEvent.after source events) (.ask request)).database) ∧
        (StoreEvent.step source (StoreEvent.after source events) (.ask request)).database.NoDangling) ↔
      ¬ request.CrossesIn (StoreEvent.after source events).database := by
  have healthy := StoreEvent.after_healthy source events
  rw [StoreEvent.step_ask healthy]
  constructor
  · rintro ⟨same, _⟩ crosses
    obtain ⟨tenant, other, differs⟩ := crossing_reaches_other healthy.consistent warrant crosses
    exact differs (same tenant other)
  · exact inside_keeps healthy.consistent tidy warrant

/-- An application of the second tenant uses its only origin; the first tenant knows both keys. -/
def crossingRun : List StoreEvent :=
  [.register (.tenant "a.com"), .register (.tenant "b.com"), .register (.application ⟨2⟩ "app" "App"),
    .ask (.addApplication ⟨2⟩ ⟨1⟩ [⟨"http://foo.com"⟩])]

theorem crossingRun_reaches_other :
    ¬ ((∀ tenant, tenant ≠ ⟨1⟩ →
          SameFor tenant (StoreEvent.after .strokes crossingRun).database
            (StoreEvent.step .strokes (StoreEvent.after .strokes crossingRun)
              (.ask (.deleteApplication ⟨1⟩ ⟨1⟩ [⟨1⟩]))).database) ∧
        (StoreEvent.step .strokes (StoreEvent.after .strokes crossingRun)
          (.ask (.deleteApplication ⟨1⟩ ⟨1⟩ [⟨1⟩]))).database.NoDangling) := by
  have origins : (StoreEvent.after .strokes crossingRun).database.origins =
      [⟨⟨1⟩, ⟨2⟩, ⟨"http://foo.com"⟩, ⟨""⟩, false⟩] := by rfl
  have associations : (StoreEvent.after .strokes crossingRun).database.associations = [⟨⟨1⟩, ⟨1⟩⟩] := by rfl
  have tidy : (StoreEvent.after .strokes crossingRun).database.NoDangling := by
    intro o ho
    rw [origins, List.mem_singleton] at ho
    refine ⟨.application ⟨1⟩, ?_⟩
    rw [ho, Carries, associations]
    exact List.mem_singleton_self _
  have crosses : (deleteApplication ⟨1⟩ ⟨1⟩ [⟨1⟩]).CrossesIn (StoreEvent.after .strokes crossingRun).database := by
    rw [CrossesIn, origins, associations]
    exact ⟨_, List.mem_singleton_self _, List.mem_singleton_self _, List.mem_singleton_self _, by decide⟩
  exact fun kept => (keeps_to_tenant_iff .strokes crossingRun tidy rfl).1 kept crosses

end OriginRequest

end OriginRegistry
