import Mathlib.Data.List.Sort
import OriginRegistry.Proofs.OriginStore.Isolation

set_option autoImplicit false

namespace OriginRegistry

namespace Database

structure KeyOrdered (db : Database) : Prop where
  applications : db.applications.Pairwise fun r s => r.application.id.val.toInt ≤ s.application.id.val.toInt
  associations : db.associations.Pairwise fun a b => a.application.val.toInt ≤ b.application.val.toInt

theorem empty_keyOrdered : empty.KeyOrdered where
  applications := List.Pairwise.nil
  associations := List.Pairwise.nil

theorem orderedInsert_ascending {α : Type} (key : α → Int64) (a : α) {rows : List α}
    (h : rows.Pairwise fun x y => (key x).toInt ≤ (key y).toInt) :
    (rows.orderedInsert (fun x y => key x < key y) a).Pairwise fun x y => (key x).toInt ≤ (key y).toInt := by
  induction rows with
  | nil => exact List.pairwise_singleton _ _
  | cons b rows ih =>
    obtain ⟨least, rest⟩ := List.pairwise_cons.1 h
    rw [List.orderedInsert_cons]
    split
    next before =>
      have below := Int64.lt_iff_toInt_lt.1 before
      refine List.pairwise_cons.2 ⟨fun x hx => ?_, h⟩
      rcases List.mem_cons.1 hx with rfl | hx
      · exact Int.le_of_lt below
      · exact Int.le_trans (Int.le_of_lt below) (least x hx)
    next behind =>
      rw [Int64.lt_iff_toInt_lt, Int.not_lt] at behind
      refine List.pairwise_cons.2 ⟨fun x hx => ?_, ih rest⟩
      rcases (List.mem_orderedInsert _).1 hx with rfl | hx
      · exact behind
      · exact least x hx

theorem placeAssociation_eq (a : Association) (rows : List Association) :
    placeAssociation a rows = rows.orderedInsert (fun x y => x.application.val < y.application.val) a := by
  induction rows with
  | nil => rfl
  | cons b rows ih => rw [placeAssociation, List.orderedInsert_cons, ih]

theorem placeApplication_eq (row : ApplicationRow) (rows : List ApplicationRow) :
    placeApplication row rows =
      rows.orderedInsert (fun x y => x.application.id.val < y.application.id.val) row := by
  induction rows with
  | nil => rfl
  | cons r rows ih => rw [placeApplication, List.orderedInsert_cons, ih]

variable {source : Source} {w : Warrant} {db after : Database}

theorem Registers.keyOrdered (step : Registers db after) (h : db.KeyOrdered) : after.KeyOrdered := by
  cases step with
  | nothing => exact h
  | tenant row new => exact ⟨h.applications, h.associations⟩
  | application row new =>
    refine ⟨?_, h.associations⟩
    simp only [withApplication, placeApplication_eq]
    exact orderedInsert_ascending (fun r : ApplicationRow => r.application.id.val) row h.applications

theorem KeyOrdered.unlink (h : db.KeyOrdered) (drop : Association → Bool) : (db.unlink drop).KeyOrdered :=
  ⟨h.applications, h.associations.sublist List.filter_sublist⟩

theorem Edit.keyOrdered (edit : Edit source w db after) (h : db.KeyOrdered) : after.KeyOrdered := by
  cases edit with
  | relevel level own => exact ⟨h.applications, h.associations⟩
  | unlink drop own => exact h.unlink drop
  | sweep => exact ⟨h.applications, h.associations⟩
  | enter origin level allowed can => exact ⟨h.applications, h.associations⟩
  | link r application member own allowed can =>
    refine ⟨h.applications, ?_⟩
    simp only [Database.link, placeAssociation_eq]
    exact orderedInsert_ascending (fun a : Association => a.application.val) _ h.associations

theorem Edits.keyOrdered (edits : Edits source w db after) (h : db.KeyOrdered) : after.KeyOrdered := by
  induction edits with
  | refl => exact h
  | tail _ edit ih => exact edit.keyOrdered ih

end Database

theorem OriginRequest.changeIn_keyOrdered {α : Type} {source : Source} {request : OriginRequest α}
    {db after : Database} (h : db.Consistent) (ordered : db.KeyOrdered) (ok : request.changeIn source db = .ok after) :
    after.KeyOrdered := by
  rcases changeIn_cases h ok with ⟨w, edits⟩ | ⟨drop, tenant, rfl⟩
  · exact edits.keyOrdered ordered
  · have unlinked := ordered.unlink drop
    exact ⟨unlinked.applications, unlinked.associations⟩

namespace StoreEvent

variable {source : Source}

theorem step_keyOrdered {p : Pool} (h : p.Healthy) (ordered : p.database.KeyOrdered) (event : StoreEvent) :
    (step source p event).database.KeyOrdered := by
  cases event with
  | register request => exact (request.perform_registers p).2.keyOrdered ordered
  | ask request =>
    rw [step_ask h]
    change (request.leaves source p.database).KeyOrdered
    unfold OriginRequest.leaves
    cases change : request.changeIn source p.database with
    | ok after => exact OriginRequest.changeIn_keyOrdered h.consistent ordered change
    | error e => exact ordered

theorem after_keyOrdered (source : Source) (events : List StoreEvent) :
    (after source events).database.KeyOrdered := by
  have start : Pool.empty.Healthy ∧ Pool.empty.database.KeyOrdered :=
    ⟨Pool.Healthy.empty, Database.empty_keyOrdered⟩
  have both : (after source events).Healthy ∧ (after source events).database.KeyOrdered :=
    List.foldlRecOn (motive := fun p : Pool => p.Healthy ∧ p.database.KeyOrdered) events (step source) start
      fun p h event _ => ⟨step_healthy h.1 event, step_keyOrdered h.1 h.2 event⟩
  exact both.2

end StoreEvent

end OriginRegistry
