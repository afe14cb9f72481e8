import OriginRegistry.Proofs.OriginStore.Continuation

set_option autoImplicit false

namespace OriginRegistry

namespace Database

structure Ready (source : Source) (db : Database) (more : Nat) : Prop where
  consistent : db.Consistent
  named : db.Named source
  room : db.lastOrigin + more ≤ largestKey

variable {source : Source} {w : Warrant} {db after : Database} {more : Nat} {tenant : TenantId} {origin : Origin}

theorem Ready.enterable (h : Ready source db (more + 1)) (names : Function.Injective source.name)
    (newText : ∀ o ∈ db.origins, o.tenant = tenant → o.origin ≠ origin) : db.Enterable source tenant origin where
  room := by
    have room := h.room
    omega
  newText := newText
  newName := by
    intro o ho same
    obtain ⟨k, before, name⟩ := h.named o ho
    have again := names (ExternalId.mk.inj (name.symm.trans same))
    omega

theorem Ready.step (h : Ready source db (more + 1)) (edits : Edits source w db after)
    (grown : after.lastOrigin ≤ db.lastOrigin + 1) : Ready source after more where
  consistent := edits.consistent h.consistent
  named := edits.continues.named h.named
  room := by
    have room := h.room
    omega

theorem Ready.cleared (h : Ready source db more) (edits : Edits source w db after)
    (same : after.lastOrigin = db.lastOrigin) : Ready source after more where
  consistent := edits.consistent h.consistent
  named := edits.continues.named h.named
  room := by
    rw [same]
    exact h.room

end Database

namespace OriginStore.Tables

open Database

variable {source : Source} {db : Database} {more : Nat} {tenant : TenantId} {application : ApplicationId}
  {origin : Origin} {origins : List Origin}

theorem foldlM_ok {f : Database → Origin → Except DatabaseError Database} {P : List Origin → Database → Prop}
    (step : ∀ origin origins db, P (origin :: origins) db → ∃ after, f db origin = .ok after ∧ P origins after)
    (start : P origins db) : ∃ after, origins.foldlM f db = .ok after := by
  induction origins generalizing db with
  | nil => exact ⟨db, rfl⟩
  | cons origin origins ih =>
    obtain ⟨mid, first, rest⟩ := step origin origins db start
    obtain ⟨after, done⟩ := ih rest
    exact ⟨after, by rw [List.foldlM_cons, first, ok_bind, done]⟩

theorem keepAtTenantLevel_ok (names : Function.Injective source.name) (h : Ready source db (more + 1))
    (tenant : TenantId) (origin : Origin) :
    ∃ after, keepAtTenantLevel source tenant db origin = .ok after ∧ after.lastOrigin ≤ db.lastOrigin + 1 := by
  unfold keepAtTenantLevel
  have intact := h.consistent.intact
  rcases originOf?_cases intact tenant origin with ⟨r, _, _, _, found⟩ | ⟨new, found⟩
  · simp only [found, ok_bind, markTenantLevel_eq intact]
    exact ⟨_, rfl, Nat.le_succ _⟩
  · simp only [found, ok_bind, (insertOrigin_eq_ok_iff intact).2 ⟨h.enterable names new, rfl, rfl⟩]
    exact ⟨_, rfl, Nat.le_refl _⟩

theorem insert_ok (names : Function.Injective source.name) (h : Ready source db (more + 1))
    (new : ∀ o ∈ db.origins, o.tenant = tenant → o.origin ≠ origin) :
    (do return (← db.insertOrigin source tenant origin true).2 : Except DatabaseError Database) =
      .ok (db.enter source tenant origin true) := by
  rw [(insertOrigin_eq_ok_iff h.consistent.intact).2 ⟨h.enterable names new, rfl, rfl⟩]
  rfl

theorem use_ok_of_enterable (h : db.Consistent)
    (can : (∀ o ∈ db.origins, o.tenant = tenant → o.origin ≠ origin) → db.Enterable source tenant origin)
    (registered : ∃ r ∈ db.applications, r.application.id = application)
    (unused : ¬ db.Allows tenant (.application application) origin) :
    ∃ after, use source tenant application db origin = .ok after ∧ after.lastOrigin ≤ db.lastOrigin + 1 := by
  unfold use
  rcases originOf?_cases h.intact tenant origin with ⟨r, hr, own, text, found⟩ | ⟨new, found⟩
  · have linkable : db.Linkable ⟨r.id, application⟩ :=
      ⟨fun linked => unused ⟨r, hr, own, text, linked⟩, ⟨r, hr, rfl⟩, registered⟩
    simp only [found, ok_bind]
    exact ⟨_, (associate_eq_ok_iff h.intact).2 ⟨linkable, rfl⟩, Nat.le_succ _⟩
  · have can := can new
    have linkable : (db.enter source tenant origin false).Linkable
        ⟨(db.nextRow source tenant origin false).id, application⟩ :=
      ⟨h.nextRow_unlinked can.room application, ⟨_, mem_enter.2 (.inr rfl), rfl⟩, registered⟩
    have linked := (associate_eq_ok_iff (h.enter can false).intact).2 ⟨linkable, rfl⟩
    simp only [found, ok_bind, (insertOrigin_eq_ok_iff h.intact).2 ⟨can, rfl, rfl⟩]
    exact ⟨_, linked, Nat.le_refl _⟩

theorem use_ok (names : Function.Injective source.name) (h : Ready source db (more + 1))
    (registered : ∃ r ∈ db.applications, r.application.id = application)
    (unused : ¬ db.Allows tenant (.application application) origin) :
    ∃ after, use source tenant application db origin = .ok after ∧ after.lastOrigin ≤ db.lastOrigin + 1 :=
  use_ok_of_enterable h.consistent (h.enterable names) registered unused

theorem setTenantIn_ok (names : Function.Injective source.name) (h : Ready source db origins.length)
    (tenant : TenantId) : ∃ after, setTenantIn source tenant origins db = .ok after := by
  rw [setTenantIn_eq h.consistent.intact]
  have cleared : Effect source _ _ _ db _ := clearTenant_effect h.consistent tenant origins
  refine foldlM_ok (P := fun rest mid => Ready source mid rest.length) ?_ (h.cleared cleared.edits rfl)
  intro origin rest mid ready
  obtain ⟨after, ok, grown⟩ := keepAtTenantLevel_ok names ready tenant origin
  have effect : Effect source _ _ _ mid after :=
    keepAtTenantLevel_effect ready.consistent (List.mem_singleton_self origin) ok
  exact ⟨after, ok, ready.step effect.edits grown⟩

theorem addTenantIn_ok (names : Function.Injective source.name) (h : Ready source db origins.length)
    (distinct : origins.Nodup)
    (new : ∀ origin ∈ origins, ∀ o ∈ db.origins, o.tenant = tenant → o.origin ≠ origin) :
    ∃ after, addTenantIn source tenant origins db = .ok after := by
  refine foldlM_ok (P := fun rest mid => Ready source mid rest.length ∧ rest.Nodup ∧
    ∀ origin ∈ rest, ∀ o ∈ mid.origins, o.tenant = tenant → o.origin ≠ origin) ?_ ⟨h, distinct, new⟩
  rintro origin rest mid ⟨ready, distinct, new⟩
  obtain ⟨once, distinct⟩ := List.nodup_cons.1 distinct
  have ok := insert_ok names ready (new origin List.mem_cons_self)
  have effect : Effect source _ _ _ mid _ := insert_effect ready.consistent (List.mem_singleton_self origin) ok
  refine ⟨_, ok, ready.step effect.edits (Nat.le_refl _), distinct, ?_⟩
  intro other hother o ho own
  rcases mem_enter.1 ho with ho | rfl
  · exact new other (List.mem_cons_of_mem _ hother) o ho own
  · exact fun same => once ((show origin = other from same) ▸ hother)

theorem uses_ok (names : Function.Injective source.name) (h : Ready source db origins.length)
    (distinct : origins.Nodup) (registered : ∃ r ∈ db.applications, r.application.id = application)
    (unused : ∀ origin ∈ origins, ¬ db.Allows tenant (.application application) origin) :
    ∃ after, origins.foldlM (use source tenant application) db = .ok after := by
  refine foldlM_ok (P := fun rest mid => Ready source mid rest.length ∧ rest.Nodup ∧
    (∃ r ∈ mid.applications, r.application.id = application) ∧
    ∀ origin ∈ rest, ¬ mid.Allows tenant (.application application) origin) ?_ ⟨h, distinct, registered, unused⟩
  rintro origin rest mid ⟨ready, distinct, registered, unused⟩
  obtain ⟨once, distinct⟩ := List.nodup_cons.1 distinct
  obtain ⟨after, ok, grown⟩ := use_ok names ready registered (unused origin List.mem_cons_self)
  have effect : Effect source _ _ _ mid after := use_effect ready.consistent (List.mem_singleton_self origin) ok
  refine ⟨after, ok, ready.step effect.edits grown, distinct, ?_, ?_⟩
  · rw [effect.edits.originsOnly.applications]
    exact registered
  · intro other hother uses
    rcases (effect.allows tenant (.application application) other).1 uses with ⟨before, _⟩ | ⟨_, _, same⟩
    · exact unused other (List.mem_cons_of_mem _ hother) before
    · exact once (List.mem_singleton.1 same ▸ hother)

theorem cleared_unused (h : db.Consistent) (origin : Origin) :
    ¬ ((db.unlink fun a => a.application = application &&
      db.origins.any fun o => o.id = a.origin && o.tenant = tenant).sweep tenant).Allows tenant
        (.application application) origin := by
  have cleared : Effect .strokes _ _ _ db _ := clearApplication_effect h tenant application []
  intro uses
  rcases (cleared.allows tenant (.application application) origin).1 uses with ⟨⟨r, hr, own, text, _⟩, kept⟩ | added
  · exact kept ⟨rfl, r, hr, own, text, decide_eq_true own⟩
  · exact absurd added.2.2 List.not_mem_nil

theorem setApplicationIn_ok (names : Function.Injective source.name) (h : Ready source db origins.length)
    (distinct : origins.Nodup) (registered : ∃ r ∈ db.applications, r.application.id = application) :
    ∃ after, setApplicationIn source tenant application origins db = .ok after := by
  rw [setApplicationIn_eq h.consistent.intact]
  have cleared : Effect source _ _ _ db _ := clearApplication_effect h.consistent tenant application origins
  exact uses_ok names (h.cleared cleared.edits rfl) distinct registered fun origin _ =>
    cleared_unused h.consistent origin

end OriginStore.Tables

end OriginRegistry
