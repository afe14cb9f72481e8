import OriginRegistry.Proofs.OriginStore.Edits

set_option autoImplicit false

namespace OriginRegistry

namespace Database

/-- The rows that `gone` selects lose the scope of the warrant, and then the origins get it. -/
structure Effect (source : Source) (w : Warrant) (gone : OriginRow → Bool) (origins : List Origin)
    (db after : Database) : Prop where
  edits : Edits source w db after
  tidy : db.NoDangling → after.NoDangling
  allows : ∀ tenant scope origin, after.Allows tenant scope origin ↔
    db.Allows tenant scope origin ∧
        ¬ (scope = w.scope ∧ ∃ r ∈ db.origins, r.tenant = tenant ∧ r.origin = origin ∧ gone r = true) ∨
      tenant = w.tenant ∧ scope = w.scope ∧ origin ∈ origins

def noRow : OriginRow → Bool := fun _ => false

variable {source : Source} {w : Warrant} {db mid after : Database}

theorem Effect.refl (source : Source) (w : Warrant) (db : Database) : Effect source w noRow [] db db where
  edits := .refl
  tidy := id
  allows := by simp [noRow]

theorem Effect.append {gone : OriginRow → Bool} {xs ys : List Origin} (first : Effect source w gone xs db mid)
    (second : Effect source w noRow ys mid after) : Effect source w gone (xs ++ ys) db after where
  edits := first.edits.trans second.edits
  tidy := fun h => second.tidy (first.tidy h)
  allows := by
    intro tenant scope origin
    rw [second.allows, first.allows, List.mem_append]
    simp only [noRow, Bool.false_eq_true, and_false, exists_false, not_false_eq_true, and_true, or_assoc, and_or_left]

theorem Effect.of_sweep {gone : OriginRow → Bool} (h : db.Consistent) (edit : Edit source w db mid)
    (allows : ∀ tenant scope origin, mid.Allows tenant scope origin ↔ db.Allows tenant scope origin ∧
      ¬ (scope = w.scope ∧ ∃ r ∈ db.origins, r.tenant = tenant ∧ r.origin = origin ∧ gone r = true)) :
    Effect source w gone [] db (mid.sweep w.tenant) where
  edits := (Relation.ReflTransGen.single edit).tail (.sweep mid)
  tidy := by
    intro tidy
    have before : db.DanglingOnlyOf w.tenant := fun o ho _ => tidy o ho
    exact (before.of_sameFor fun _ other => edit.sameFor h other).sweep
  allows := by
    intro tenant scope origin
    rw [allows_sweep, allows]
    simp

theorem lower_effect (h : db.Consistent) {tenant : TenantId} {origins : List Origin} {gone : OriginRow → Bool}
    (own : ∀ o ∈ db.origins, gone o = true → o.tenant = tenant) :
    Effect source ⟨tenant, .tenantLevel, origins⟩ gone [] db ((db.lower gone).sweep tenant) := by
  refine Effect.of_sweep h (.relevel db _ ?_) fun _ _ _ => allows_lower h
  intro o ho foreign
  have stays : gone o = false := Bool.not_eq_true _ ▸ fun away => foreign (own o ho away)
  rw [stays, Bool.not_false, Bool.and_true]

theorem unlink_effect (h : db.Consistent) {tenant : TenantId} {application : ApplicationId} {origins : List Origin}
    {drop : Association → Bool} {gone : OriginRow → Bool}
    (dropped : ∀ r ∈ db.origins, ∀ b, drop ⟨r.id, b⟩ = (decide (b = application) && gone r))
    (own : ∀ o ∈ db.origins, gone o = true → ⟨o.id, application⟩ ∈ db.associations → o.tenant = tenant) :
    Effect source ⟨tenant, .application application, origins⟩ gone [] db ((db.unlink drop).sweep tenant) := by
  refine Effect.of_sweep h (.unlink db drop ?_) fun _ _ _ => allows_unlink h dropped
  rintro ⟨id, b⟩ ha away o ho rfl
  rw [dropped o ho b, Bool.and_eq_true, decide_eq_true_eq] at away
  obtain ⟨rfl, away⟩ := away
  exact own o ho away ha

theorem raise_effect (h : db.Consistent) {origins : List Origin} {r : OriginRow} (hr : r ∈ db.origins) :
    Effect source ⟨r.tenant, .tenantLevel, origins⟩ noRow [r.origin] db
      (db.relevel fun o => o.tenantLevel || o.id = r.id) where
  edits := by
    refine .single (.relevel db _ ?_)
    intro o ho foreign
    have apart : o.id ≠ r.id := fun same => foreign (congrArg OriginRow.tenant (h.eq_of_id ho hr same))
    simp [apart]
  tidy := by
    intro tidy o ho
    obtain ⟨s, hs, rfl⟩ := mem_relevel.1 ho
    obtain ⟨scope, carries⟩ := tidy s hs
    refine ⟨scope, ?_⟩
    cases scope with
    | tenantLevel => exact Bool.or_eq_true_iff.2 (.inl carries)
    | application a => exact carries
  allows := by
    intro tenant scope origin
    rw [allows_raise h hr]
    simp [noRow]

theorem enter_effect (h : db.Consistent) {tenant : TenantId} {origins : List Origin} {origin : Origin}
    (member : origin ∈ origins) (can : db.Enterable source tenant origin) :
    Effect source ⟨tenant, .tenantLevel, origins⟩ noRow [origin] db (db.enter source tenant origin true) where
  edits := .single (.enter db origin true member can)
  tidy := by
    intro tidy o ho
    rcases mem_enter.1 ho with ho | rfl
    · obtain ⟨scope, carries⟩ := tidy o ho
      exact ⟨scope, (carries_congr rfl).2 carries⟩
    · exact ⟨.tenantLevel, rfl⟩
  allows := by
    intro of scope other
    rw [allows_enter h can]
    simp [noRow]

theorem NoDangling.link (tidy : db.NoDangling) (a : Association) : (db.link a).NoDangling := by
  intro o ho
  obtain ⟨scope, carries⟩ := tidy o ho
  exact ⟨scope, carries_link.2 (.inl carries)⟩

theorem link_effect (h : db.Consistent) {origins : List Origin} {r : OriginRow} (hr : r ∈ db.origins)
    {application : ApplicationId} (can : db.Linkable ⟨r.id, application⟩) :
    Effect source ⟨r.tenant, .application application, origins⟩ noRow [r.origin] db
      (db.link ⟨r.id, application⟩) where
  edits := .single (.link db r application hr rfl rfl can)
  tidy := fun tidy => tidy.link _
  allows := by
    intro tenant scope origin
    rw [allows_link h hr]
    simp [noRow]

/-- The new row has no use until it is linked, so that both edits make one effect. -/
theorem enter_link_effect (h : db.Consistent) {tenant : TenantId} {origins : List Origin} {origin : Origin}
    (member : origin ∈ origins) (can : db.Enterable source tenant origin) {application : ApplicationId}
    (linkable : (db.enter source tenant origin false).Linkable
      ⟨(db.nextRow source tenant origin false).id, application⟩) :
    Effect source ⟨tenant, .application application, origins⟩ noRow [origin] db
      ((db.enter source tenant origin false).link ⟨(db.nextRow source tenant origin false).id, application⟩) where
  edits := (Relation.ReflTransGen.single (.enter db origin false member can)).tail
    (.link _ (db.nextRow source tenant origin false) application (mem_enter.2 (.inr rfl)) rfl rfl linkable)
  tidy := by
    intro tidy o ho
    rcases mem_enter.1 ho with ho | rfl
    · obtain ⟨scope, carries⟩ := tidy o ho
      exact ⟨scope, carries_link.2 (.inl ((carries_congr rfl).2 carries))⟩
    · exact ⟨.application application, carries_link.2 (.inr ⟨rfl, rfl⟩)⟩
  allows := by
    intro of scope other
    rw [allows_link (h.enter can false) (mem_enter.2 (.inr rfl)), allows_enter h can]
    simp [noRow, nextRow]

end Database

namespace OriginStore.Tables

open Database

variable {source : Source} {w : Warrant} {db after : Database} {tenant : TenantId}

theorem originOf?_cases (h : db.Intact) (tenant : TenantId) (origin : Origin) :
    (∃ r ∈ db.origins, r.tenant = tenant ∧ r.origin = origin ∧ db.originOf? tenant origin = .ok (some r.id)) ∨
      (∀ r ∈ db.origins, r.tenant = tenant → r.origin ≠ origin) ∧ db.originOf? tenant origin = .ok none := by
  rw [originOf?_eq h]
  cases found : db.origins.find? fun o => o.tenant = tenant && o.origin = origin with
  | none =>
    refine .inr ⟨fun r hr ht ho => ?_, rfl⟩
    have none := List.find?_eq_none.1 found r hr
    simp [ht, ho] at none
  | some r =>
    have hit := List.find?_some found
    simp only [Bool.and_eq_true, decide_eq_true_eq] at hit
    exact .inl ⟨r, List.mem_of_find?_eq_some found, hit.1, hit.2, rfl⟩

theorem keepAtTenantLevel_effect (h : db.Consistent) {origins : List Origin} {origin : Origin}
    (member : origin ∈ origins) (ok : keepAtTenantLevel source tenant db origin = .ok after) :
    Effect source ⟨tenant, .tenantLevel, origins⟩ noRow [origin] db after := by
  unfold keepAtTenantLevel at ok
  rcases originOf?_cases h.intact tenant origin with ⟨r, hr, rfl, rfl, found⟩ | ⟨_, found⟩
  · simp only [found, ok_bind, markTenantLevel_eq h.intact, Except.ok.injEq] at ok
    exact ok ▸ raise_effect h hr
  · simp only [found, ok_bind] at ok
    obtain ⟨⟨id, entered⟩, inserted, same⟩ := bind_eq_ok_iff.1 ok
    obtain ⟨can, _, rfl⟩ := (insertOrigin_eq_ok_iff h.intact).1 inserted
    exact pure_eq_ok_iff.1 same ▸ enter_effect h member can

theorem insert_effect (h : db.Consistent) {origins : List Origin} {origin : Origin} (member : origin ∈ origins)
    (ok : (do return (← db.insertOrigin source tenant origin true).2 : Except DatabaseError Database) = .ok after) :
    Effect source ⟨tenant, .tenantLevel, origins⟩ noRow [origin] db after := by
  obtain ⟨⟨id, entered⟩, inserted, same⟩ := bind_eq_ok_iff.1 ok
  obtain ⟨can, _, rfl⟩ := (insertOrigin_eq_ok_iff h.intact).1 inserted
  exact pure_eq_ok_iff.1 same ▸ enter_effect h member can

theorem use_cases (h : db.Intact) {application : ApplicationId} {origin : Origin}
    (ok : use source tenant application db origin = .ok after) :
    (∃ r ∈ db.origins, r.tenant = tenant ∧ r.origin = origin ∧ db.Linkable ⟨r.id, application⟩ ∧
        after = db.link ⟨r.id, application⟩) ∨
      db.Enterable source tenant origin ∧
        (db.enter source tenant origin false).Linkable ⟨(db.nextRow source tenant origin false).id, application⟩ ∧
        after =
          (db.enter source tenant origin false).link ⟨(db.nextRow source tenant origin false).id, application⟩ := by
  unfold use at ok
  rcases originOf?_cases h tenant origin with ⟨r, hr, own, text, found⟩ | ⟨_, found⟩
  · simp only [found, ok_bind] at ok
    obtain ⟨can, rfl⟩ := (associate_eq_ok_iff h).1 ok
    exact .inl ⟨r, hr, own, text, can, rfl⟩
  · simp only [found, ok_bind] at ok
    obtain ⟨⟨id, entered⟩, inserted, linked⟩ := bind_eq_ok_iff.1 ok
    obtain ⟨can, rfl, rfl⟩ := (insertOrigin_eq_ok_iff h).1 inserted
    have intact : (db.enter source tenant origin false).Intact := h
    obtain ⟨linkable, rfl⟩ := (associate_eq_ok_iff intact).1 linked
    exact .inr ⟨can, linkable, rfl⟩

theorem use_effect (h : db.Consistent) {application : ApplicationId} {origins : List Origin} {origin : Origin}
    (member : origin ∈ origins) (ok : use source tenant application db origin = .ok after) :
    Effect source ⟨tenant, .application application, origins⟩ noRow [origin] db after := by
  rcases use_cases h.intact ok with ⟨r, hr, rfl, rfl, can, rfl⟩ | ⟨can, linkable, rfl⟩
  · exact link_effect h hr can
  · exact enter_link_effect h member can linkable

/-- What each step of a list comes to, the list comes to as a whole. -/
theorem foldlM_effect {f : Database → Origin → Except DatabaseError Database}
    (step : ∀ {db after : Database} {origin : Origin}, db.Consistent → origin ∈ w.origins →
      f db origin = .ok after → Effect source w noRow [origin] db after)
    {origins : List Origin} (sub : ∀ o ∈ origins, o ∈ w.origins) (h : db.Consistent)
    (ok : origins.foldlM f db = .ok after) : Effect source w noRow origins db after := by
  induction origins generalizing db with
  | nil =>
    obtain rfl := pure_eq_ok_iff.1 ok
    exact .refl source w db
  | cons origin origins ih =>
    rw [List.foldlM_cons] at ok
    obtain ⟨mid, first, rest⟩ := bind_eq_ok_iff.1 ok
    have head := step h (sub origin List.mem_cons_self) first
    exact head.append (ih (fun o ho => sub o (List.mem_cons_of_mem _ ho)) (head.edits.consistent h) rest)

theorem clearTenant_effect (h : db.Consistent) (tenant : TenantId) (origins : List Origin) :
    Effect source ⟨tenant, .tenantLevel, origins⟩ (fun r => r.tenant = tenant) [] db
      ((db.lower fun o => o.tenant = tenant).sweep tenant) :=
  lower_effect h fun _ _ away => of_decide_eq_true away

theorem clearApplication_effect (h : db.Consistent) (tenant : TenantId) (application : ApplicationId)
    (origins : List Origin) :
    Effect source ⟨tenant, .application application, origins⟩ (fun r => r.tenant = tenant) [] db
      ((db.unlink fun a =>
        a.application = application && db.origins.any fun o => o.id = a.origin && o.tenant = tenant).sweep tenant) := by
  have owned : ∀ r ∈ db.origins, (db.origins.any fun o => o.id = r.id && o.tenant = tenant) =
      decide (r.tenant = tenant) := by
    intro r hr
    rw [Bool.eq_iff_iff, List.any_eq_true, decide_eq_true_eq]
    simp only [Bool.and_eq_true, decide_eq_true_eq]
    constructor
    · rintro ⟨o, ho, same, own⟩
      exact h.eq_of_id ho hr same ▸ own
    · exact fun own => ⟨r, hr, rfl, own⟩
  exact unlink_effect h (fun r hr b => by rw [owned r hr]) fun o _ away _ => of_decide_eq_true away

theorem setTenantIn_eq (h : db.Intact) (tenant : TenantId) (origins : List Origin) :
    setTenantIn source tenant origins db =
      origins.foldlM (keepAtTenantLevel source tenant) ((db.lower fun o => o.tenant = tenant).sweep tenant) := by
  simp only [setTenantIn, clearTenantLevel_eq h, ok_bind]
  rw [removeDangling_eq (h.lower _), ok_bind]

theorem setApplicationIn_eq (h : db.Intact) (tenant : TenantId) (application : ApplicationId)
    (origins : List Origin) :
    setApplicationIn source tenant application origins db =
      origins.foldlM (use source tenant application) ((db.unlink fun a =>
        a.application = application && db.origins.any fun o => o.id = a.origin && o.tenant = tenant).sweep tenant) := by
  simp only [setApplicationIn, dissociateAll_eq h, ok_bind]
  rw [removeDangling_eq (h.unlink _), ok_bind]

theorem setTenantIn_effect (h : db.Consistent) {origins : List Origin}
    (ok : setTenantIn source tenant origins db = .ok after) :
    Effect source ⟨tenant, .tenantLevel, origins⟩ (fun r => r.tenant = tenant) origins db after := by
  rw [setTenantIn_eq h.intact] at ok
  have cleared : Effect source _ _ _ db _ := clearTenant_effect h tenant origins
  exact cleared.append (foldlM_effect (keepAtTenantLevel_effect ·) (fun _ => id) (cleared.edits.consistent h) ok)

theorem setApplicationIn_effect (h : db.Consistent) {application : ApplicationId} {origins : List Origin}
    (ok : setApplicationIn source tenant application origins db = .ok after) :
    Effect source ⟨tenant, .application application, origins⟩ (fun r => r.tenant = tenant) origins db after := by
  rw [setApplicationIn_eq h.intact] at ok
  have cleared : Effect source _ _ _ db _ := clearApplication_effect h tenant application origins
  exact cleared.append (foldlM_effect (use_effect ·) (fun _ => id) (cleared.edits.consistent h) ok)

theorem addTenantIn_effect (h : db.Consistent) {origins : List Origin}
    (ok : addTenantIn source tenant origins db = .ok after) :
    Effect source ⟨tenant, .tenantLevel, origins⟩ noRow origins db after :=
  foldlM_effect (insert_effect ·) (fun _ => id) h ok

theorem addApplicationIn_effect (h : db.Consistent) {application : ApplicationId} {origins : List Origin}
    (ok : addApplicationIn source tenant application origins db = .ok after) :
    Effect source ⟨tenant, .application application, origins⟩ noRow origins db after :=
  foldlM_effect (use_effect ·) (fun _ => id) h ok

theorem deleteTenantIn_eq (h : db.Intact) (tenant : TenantId) (ids : List OriginId) :
    deleteTenantIn tenant ids db =
      .ok ((db.lower fun o => o.tenant = tenant && ids.contains o.id).sweep tenant) := by
  have each : ids.foldlM (fun db id => (db.clearTenantLevelOf tenant id).mapError
      (failure .deleteOriginAssociations (toString id))) db =
        .ok (db.lower fun o => o.tenant = tenant && ids.contains o.id) := by
    induction ids generalizing db with
    | nil =>
      refine congrArg Except.ok ?_
      simp [lower, relevel]
    | cons id ids ih =>
      rw [List.foldlM_cons, clearTenantLevelOf_eq h, ok_mapError, ok_bind, ih (h.lower _)]
      simp only [lower, relevel, List.map_map, Except.ok.injEq, Database.mk.injEq, true_and, and_true]
      refine List.map_congr_left fun o _ => ?_
      have both : ∀ level own first others : Bool,
          (level && !(own && first) && !(own && others)) = (level && !(own && (first || others))) := by decide
      exact congrArg (fun level => { o with tenantLevel := level }) (both _ _ _ _)
  rw [deleteTenantIn, deleteEach, each, ok_bind, removeDangling_eq (h.lower _)]
  rfl

theorem deleteApplicationIn_eq (h : db.Intact) (tenant : TenantId) (application : ApplicationId)
    (ids : List OriginId) :
    deleteApplicationIn tenant application ids db =
      .ok ((db.unlink fun a => a.application = application && ids.contains a.origin).sweep tenant) := by
  have each : ids.foldlM (fun db id => (db.dissociate id application).mapError
      (failure .deleteOriginAssociations (toString id))) db =
        .ok (db.unlink fun a => a.application = application && ids.contains a.origin) := by
    induction ids generalizing db with
    | nil =>
      refine congrArg Except.ok ?_
      simp [unlink]
    | cons id ids ih =>
      rw [List.foldlM_cons, dissociate_eq h, ok_mapError, ok_bind, ih (h.unlink _)]
      simp only [unlink, List.filter_filter, Except.ok.injEq, Database.mk.injEq, true_and, and_true]
      refine List.filter_congr fun a _ => ?_
      have both : ∀ own first others : Bool,
          (!(own && others) && !(first && own)) = !(own && (first || others)) := by decide
      exact both _ _ _
  rw [deleteApplicationIn, deleteEach, each, ok_bind, removeDangling_eq (h.unlink _)]
  rfl

end OriginStore.Tables

end OriginRegistry
