import OriginRegistry.Proofs.OriginStore.Requests

set_option autoImplicit false

namespace OriginRegistry

/-- A row without its level. -/
structure OriginIdentity where
  tenant : TenantId
  origin : Origin
  id : OriginId
  externalId : ExternalId
  deriving DecidableEq, Repr

def OriginRow.identity (o : OriginRow) : OriginIdentity := ⟨o.tenant, o.origin, o.id, o.externalId⟩

namespace Database

def identities (db : Database) : List OriginIdentity := db.origins.map OriginRow.identity

/-- Of the rows before some are left, in their order, and the new ones behind them are called by keys and names that
    were not given out before. -/
structure Continues (source : Source) (db after : Database) : Prop where
  rows : ∃ kept added, after.identities = kept ++ added ∧ kept.Sublist db.identities ∧
    ∀ i ∈ added, (db.lastOrigin : Int) < i.id.val.toInt ∧
      ∃ k, db.drawn ≤ k ∧ k < after.drawn ∧ i.externalId = ⟨source.name k⟩
  lastOrigin : db.lastOrigin ≤ after.lastOrigin
  drawn : db.drawn ≤ after.drawn

variable {source : Source} {w : Warrant} {db mid after : Database}

theorem Continues.of_sublist (sub : after.identities.Sublist db.identities) (lastOrigin : db.lastOrigin ≤ after.lastOrigin)
    (drawn : db.drawn ≤ after.drawn) : Continues source db after where
  rows := ⟨after.identities, [], (List.append_nil _).symm, sub, fun _ new => absurd new List.not_mem_nil⟩
  lastOrigin := lastOrigin
  drawn := drawn

theorem Continues.of_origins (same : after.origins = db.origins) (lastOrigin : after.lastOrigin = db.lastOrigin)
    (drawn : db.drawn ≤ after.drawn) : Continues source db after := by
  refine .of_sublist ?_ (Nat.le_of_eq lastOrigin.symm) drawn
  rw [identities, same]
  exact .refl _

theorem Continues.refl (source : Source) (db : Database) : Continues source db db :=
  .of_origins rfl rfl (Nat.le_refl _)

theorem Continues.trans (first : Continues source db mid) (second : Continues source mid after) :
    Continues source db after where
  rows := by
    obtain ⟨kept, added, rows, left, fresh⟩ := first.rows
    obtain ⟨keptToo, addedToo, rowsToo, leftToo, freshToo⟩ := second.rows
    rw [rows] at leftToo
    -- of the rows in between, those that are left were there at the start or came first
    obtain ⟨old, new, rfl, oldLeft, newLeft⟩ := List.sublist_append_iff.1 leftToo
    refine ⟨old, new ++ addedToo, by rw [rowsToo, List.append_assoc], oldLeft.trans left, ?_⟩
    intro i hi
    rcases List.mem_append.1 hi with early | late
    · obtain ⟨above, k, low, high, name⟩ := fresh i (newLeft.subset early)
      exact ⟨above, k, low, Nat.lt_of_lt_of_le high second.drawn, name⟩
    · obtain ⟨above, k, low, high, name⟩ := freshToo i late
      have grown := first.lastOrigin
      exact ⟨by omega, k, Nat.le_trans first.drawn low, high, name⟩
  lastOrigin := Nat.le_trans first.lastOrigin second.lastOrigin
  drawn := Nat.le_trans first.drawn second.drawn

theorem unlink_sweep_continues (drop : Association → Bool) (tenant : TenantId) :
    Continues source db ((db.unlink drop).sweep tenant) :=
  .of_sublist (List.filter_sublist.map _) (Nat.le_refl _) (Nat.le_refl _)

theorem Edit.continues (edit : Edit source w db after) : Continues source db after := by
  cases edit with
  | relevel level own =>
    refine .of_sublist ?_ (Nat.le_refl _) (Nat.le_refl _)
    rw [identities, relevel_map level _ fun _ _ => rfl]
    exact .refl _
  | unlink drop own => exact .of_origins rfl rfl (Nat.le_refl _)
  | sweep => exact .of_sublist (List.filter_sublist.map _) (Nat.le_refl _) (Nat.le_refl _)
  | enter origin level allowed can =>
    refine ⟨⟨db.identities, [_], List.map_append, .refl _, ?_⟩, Nat.le_succ _, Nat.le_succ _⟩
    intro i hi
    obtain rfl := List.mem_singleton.1 hi
    refine ⟨?_, db.drawn, Nat.le_refl _, Nat.lt_succ_self _, rfl⟩
    change (db.lastOrigin : Int) < (db.nextRow source w.tenant origin level).id.val.toInt
    rw [nextRow_key can.room]
    omega
  | link r application member own allowed can => exact .of_origins rfl rfl (Nat.le_refl _)

theorem Edits.continues (edits : Edits source w db after) : Continues source db after := by
  induction edits with
  | refl => exact .refl source db
  | tail _ edit ih => exact ih.trans edit.continues

theorem mem_identities {i : OriginIdentity} : i ∈ db.identities ↔ ∃ o ∈ db.origins, o.identity = i := List.mem_map

theorem Continues.named (step : Continues source db after) (h : db.Named source) : after.Named source := by
  obtain ⟨kept, added, rows, left, fresh⟩ := step.rows
  intro o ho
  have there : o.identity ∈ kept ++ added := rows ▸ mem_identities.2 ⟨o, ho, rfl⟩
  rcases List.mem_append.1 there with old | new
  · obtain ⟨r, hr, same⟩ := mem_identities.1 (left.subset old)
    obtain ⟨k, low, name⟩ := h r hr
    exact ⟨k, Nat.lt_of_lt_of_le low step.drawn, (congrArg OriginIdentity.externalId same).symm.trans name⟩
  · obtain ⟨_, k, _, high, name⟩ := fresh o.identity new
    exact ⟨k, high, name⟩

theorem Consistent.identity_bounded (h : db.Consistent) {i : OriginIdentity} (hi : i ∈ db.identities) :
    i.id.val.toInt ≤ db.lastOrigin := by
  obtain ⟨o, ho, rfl⟩ := mem_identities.1 hi
  exact h.bounded o ho

theorem Consistent.eq_of_called (h : db.Consistent) {i j : OriginIdentity} (hi : i ∈ db.identities)
    (hj : j ∈ db.identities) (same : j.id = i.id ∨ j.externalId = i.externalId) : j = i := by
  obtain ⟨o, ho, rfl⟩ := mem_identities.1 hi
  obtain ⟨r, hr, rfl⟩ := mem_identities.1 hj
  rcases same with key | name
  · rw [h.eq_of_id hr ho key]
  · rw [h.eq_of_externalId hr ho name]

theorem Continues.present (step : Continues source db after) {j : OriginIdentity} (hj : j ∈ after.identities)
    (old : j.id.val.toInt ≤ db.lastOrigin) : j ∈ db.identities := by
  obtain ⟨kept, added, rows, left, fresh⟩ := step.rows
  rw [rows] at hj
  rcases List.mem_append.1 hj with stays | new
  · exact left.subset stays
  · have above := (fresh j new).1
    omega

theorem Continues.eq_of_called (step : Continues source db after) (h : db.Consistent) (named : db.Named source)
    (names : Function.Injective source.name) {i j : OriginIdentity} (hi : i ∈ db.identities)
    (hj : j ∈ after.identities) (same : j.id = i.id ∨ j.externalId = i.externalId) : j = i := by
  obtain ⟨kept, added, rows, left, fresh⟩ := step.rows
  rw [rows] at hj
  rcases List.mem_append.1 hj with stays | new
  · exact h.eq_of_called hi (left.subset stays) same
  · obtain ⟨above, k, low, _, name⟩ := fresh j new
    have bounded := h.identity_bounded hi
    rcases same with key | nameToo
    · rw [key] at above
      omega
    · obtain ⟨o, ho, rfl⟩ := mem_identities.1 hi
      obtain ⟨l, before, drawn⟩ := named o ho
      have again := names (congrArg ExternalId.val (name.symm.trans (nameToo.trans drawn)))
      omega

end Database

namespace OriginRequest

open Database

variable {α : Type} {source : Source} {db after : Database}

theorem changeIn_continues {request : OriginRequest α} (h : db.Consistent)
    (ok : request.changeIn source db = .ok after) : Continues source db after := by
  rcases changeIn_cases h ok with ⟨w, edits⟩ | ⟨drop, tenant, rfl⟩
  · exact edits.continues
  · exact unlink_sweep_continues drop tenant

theorem changeIn_originsOnly {request : OriginRequest α} (h : db.Consistent)
    (ok : request.changeIn source db = .ok after) : OriginsOnly db after := by
  rcases changeIn_cases h ok with ⟨w, edits⟩ | ⟨drop, tenant, rfl⟩
  · exact edits.originsOnly
  · exact ⟨rfl, rfl, rfl, rfl, rfl, Nat.le_refl _⟩

end OriginRequest

end OriginRegistry
