import OriginRegistry.Proofs.Configuration.Holdings

set_option autoImplicit false

namespace OriginRegistry

open Function (Injective)

namespace ConfigurationManager.Tables

open Database

variable {source : Source} {p : Pool}

/-- A request is answered by a rule, from the catalogue that the tables held to the one that they hold then. -/
def Heeds (source : Source) (p : Pool) {α : Type} (request : ConfigurationRequest α) : Prop :=
  ∃ answered q, ((manager source).answer request).run p = (answered, q) ∧
    p.database.catalogue.Answers Catalogue.differ (source.ReadsWithin p.database.drawn q.database.drawn) request answered
      q.database.catalogue

section Transact

variable {α : Type} {request : ConfigurationRequest α} {change : Database → Except ConfigurationError (α × Database)}

theorem heeds_of_ok (h : p.Healthy) (same : (manager source).answer request = Pool.transact .database change) {x : α}
    {after : Database} (ok : change p.database = .ok (x, after))
    (rule : p.database.catalogue.Answers Catalogue.differ (source.ReadsWithin p.database.drawn after.drawn) request
      (.ok x) after.catalogue) : Heeds source p request := by
  refine ⟨.ok x, ⟨after, true⟩, ?_, rule⟩
  rw [same, h.run_transact_ok ok]

theorem heeds_of_error (h : p.Healthy) (same : (manager source).answer request = Pool.transact .database change)
    {e : ConfigurationError} (refused : change p.database = .error e)
    (rule : p.database.catalogue.Answers Catalogue.differ (source.ReadsWithin p.database.drawn p.database.drawn) request
      (.error e) p.database.catalogue) : Heeds source p request := by
  refine ⟨.error e, p, ?_, rule⟩
  rw [same, h.run_transact_error refused]

end Transact

section Requests

theorem type_heeds (h : p.Orderly source) (name : String) :
    Heeds source p (.type name) := by
  have ran : ((manager source).answer (.type name)).run p = _ := run_type h.toHealthy name
  cases found : p.database.typeOf? name with
  | none =>
    rw [found] at ran
    exact ⟨_, p, ran, .typeUnknown found⟩
  | some t =>
    rw [found] at ran
    exact ⟨_, p, ran, .type found⟩

theorem addType_heeds (h : p.Orderly source) (names : Injective source.name)
    (draft : ResourceTypeDraft) : Heeds source p (.addType draft) := by
  have added := addTypeIn_eq h.filed h.consistent.intact names draft
  cases found : p.database.typeOf? draft.name with
  | some t =>
    rw [found] at added
    exact heeds_of_error h.toHealthy rfl added (.addTypeTaken found)
  | none =>
    rw [found] at added
    refine heeds_of_ok h.toHealthy rfl added ?_
    rw [catalogue_withType h.filed names found]
    exact .addType found (h.filed.unused names (Nat.le_refl _))

theorem resource_heeds (h : p.Orderly source) (key : ResourceKey) :
    Heeds source p (.resource key.tenant key.resourceType key.name) := by
  have ran : ((manager source).answer (.resource key.tenant key.resourceType key.name)).run p =
      (resourceIn key.tenant key.resourceType key.name p.database, p) := by
    rw [h.eq_open]
    rfl
  rw [resourceIn_eq h.consistent.intact] at ran
  cases typed : p.database.typeOf? key.resourceType with
  | none =>
    rw [typed] at ran
    exact ⟨_, p, ran, .resourceUntyped typed⟩
  | some t =>
    rw [typed] at ran
    cases row : p.database.rowAt? key with
    | none =>
      rw [row] at ran
      exact ⟨_, p, ran, .resourceNone typed (catalogue_missing row)⟩
    | some r =>
      rw [row] at ran
      exact ⟨_, p, ran, .resource typed (catalogue_held row) (holding_shows h.filed row)⟩

section Replace

variable {t : ResourceType} {tenant : TenantId} {resourceType : String} {draft : ResourceDraft}

theorem replace_heeds_new (h : p.Orderly source) (names : Injective source.name)
    (typed : p.database.typeOf? resourceType = some t)
    (found : p.database.resourceOf? tenant t.id draft.name = none) :
    Heeds source p (.replace tenant resourceType draft) := by
  obtain ⟨ht, rfl⟩ := h.filed.typeOf?_eq_some_iff.1 typed
  have intact := h.consistent.intact
  have row : p.database.rowAt? ⟨tenant, t.name, draft.name⟩ = none := by
    rw [rowAt?, typed, Option.bind_some, found]
  have missing := catalogue_missing row
  have empty := h.filed.entriesOf_begun names tenant t.id draft.name
  have result : replaceIn source tenant t.name draft p.database = _ :=
    replaceIn_of_fresh intact typed (freshResource_new h.filed intact names found) intact empty
  split at result
  next once =>
    refine heeds_of_ok h.toHealthy rfl result ?_
    rw [catalogue_made h.filed names ht found]
    have unused := h.filed.unused names (Nat.le_succ p.database.drawn)
    have read := source.readsWithin (Nat.le_refl p.database.drawn) (Nat.lt_add_of_pos_right Nat.two_pos)
    exact .replaceNew typed once missing unused read ⟨rfl, rfl, rfl, rfl, rfl, by simp [Resource.isModified]⟩
  next twice => exact heeds_of_error h.toHealthy rfl result (.replaceRepeated typed twice)

theorem replace_heeds_old (h : p.Orderly source)
    (typed : p.database.typeOf? resourceType = some t) {r : ResourceRow}
    (found : p.database.resourceOf? tenant t.id draft.name = some r) :
    Heeds source p (.replace tenant resourceType draft) := by
  have intact := h.consistent.intact
  have row : p.database.rowAt? ⟨tenant, resourceType, draft.name⟩ = some r := by
    rw [rowAt?, typed, Option.bind_some, found]
  have held := catalogue_held row
  have empty : (p.database.cleared source r.id).entriesOf r.id = [] := by
    rw [entriesOf_cleared, if_pos rfl]
  have result : replaceIn source tenant resourceType draft p.database = _ :=
    replaceIn_of_fresh intact typed (freshResource_old intact found) intact empty
  split at result
  next once =>
    refine heeds_of_ok h.toHealthy rfl result ?_
    rw [catalogue_replaced h.filed row]
    -- The moment that is shown was read before the one that is kept.
    have read := source.readsWithin (Nat.le_refl p.database.drawn) (Nat.lt_add_of_pos_right Nat.two_pos)
    have readLater := source.readsWithin (Nat.le_succ p.database.drawn) (Nat.lt_succ_self _)
    exact .replaceOld typed once held read readLater ⟨rfl, rfl, rfl, rfl, rfl, rfl⟩
  next twice => exact heeds_of_error h.toHealthy rfl result (.replaceRepeated typed twice)

theorem replace_heeds (h : p.Orderly source) (names : Injective source.name)
    (tenant : TenantId) (resourceType : String) (draft : ResourceDraft) :
    Heeds source p (.replace tenant resourceType draft) := by
  cases typed : p.database.typeOf? resourceType with
  | none =>
    have refused : replaceIn source tenant resourceType draft p.database = .error (.typeMissing resourceType) := by
      rw [replaceIn, requireType_eq h.consistent.intact, typed]
      rfl
    exact heeds_of_error h.toHealthy rfl refused (.replaceUntyped typed)
  | some t =>
    cases found : p.database.resourceOf? tenant t.id draft.name with
    | none => exact replace_heeds_new h names typed found
    | some r => exact replace_heeds_old h typed found

end Replace

section OneAttribute

variable {key : ResourceKey}

/-- Why an attribute can be neither added nor deleted, as far as this depends on the resource only. -/
theorem requireResource_cases (h : p.Orderly source) (key : ResourceKey) :
    (p.database.typeOf? key.resourceType = none ∧
      requireResource p.database key.tenant key.resourceType key.name = .error (.typeMissing key.resourceType)) ∨
    (∃ t, p.database.typeOf? key.resourceType = some t ∧ p.database.catalogue.resources key = none ∧
      requireResource p.database key.tenant key.resourceType key.name =
        .error (.resourceMissing key.resourceType key.name)) ∨
    ∃ t r, p.database.typeOf? key.resourceType = some t ∧ p.database.rowAt? key = some r := by
  rw [requireResource_eq h.consistent.intact]
  cases typed : p.database.typeOf? key.resourceType with
  | none => exact .inl ⟨rfl, rfl⟩
  | some t =>
    cases row : p.database.rowAt? key with
    | none => exact .inr (.inl ⟨t, rfl, catalogue_missing row, rfl⟩)
    | some r => exact .inr (.inr ⟨t, r, rfl, rfl⟩)

theorem addAttribute_heeds (h : p.Orderly source) (key : ResourceKey) (entry : Attribute) :
    Heeds source p (.addAttribute key.tenant key.resourceType key.name entry) := by
  rcases requireResource_cases h key with ⟨typed, missing⟩ | ⟨t, typed, nothing, missing⟩ | ⟨t, r, typed, row⟩
  · have refused : addAttributeIn source key.tenant key.resourceType key.name entry p.database =
        .error (.typeMissing key.resourceType) := by
      rw [addAttributeIn, missing]
      rfl
    exact heeds_of_error h.toHealthy rfl refused (.addAttributeUntyped typed)
  · have refused : addAttributeIn source key.tenant key.resourceType key.name entry p.database =
        .error (.resourceMissing key.resourceType key.name) := by
      rw [addAttributeIn, missing]
      rfl
    exact heeds_of_error h.toHealthy rfl refused (.addAttributeNowhere typed nothing)
  · have held := catalogue_held row
    have result : addAttributeIn source key.tenant key.resourceType key.name entry p.database = _ :=
      addAttributeIn_of_row h.consistent.intact typed row entry
    split at result
    next taken => exact heeds_of_error h.toHealthy rfl result (.addAttributeTaken typed held taken)
    next new =>
      refine heeds_of_ok h.toHealthy rfl result ?_
      rw [catalogue_added h.filed row]
      exact .addAttribute typed held new (source.readsWithin (Nat.le_refl _) (Nat.lt_succ_self _))

theorem deleteAttribute_heeds (h : p.Orderly source) (key : ResourceKey) (gone : String) :
    Heeds source p (.deleteAttribute key.tenant key.resourceType key.name gone) := by
  rcases requireResource_cases h key with ⟨typed, missing⟩ | ⟨t, typed, nothing, missing⟩ | ⟨t, r, typed, row⟩
  · have refused : deleteAttributeIn source key.tenant key.resourceType key.name gone p.database =
        .error (.typeMissing key.resourceType) := by
      rw [deleteAttributeIn, missing]
      rfl
    exact heeds_of_error h.toHealthy rfl refused (.deleteAttributeUntyped typed)
  · have refused : deleteAttributeIn source key.tenant key.resourceType key.name gone p.database =
        .error (.resourceMissing key.resourceType key.name) := by
      rw [deleteAttributeIn, missing]
      rfl
    exact heeds_of_error h.toHealthy rfl refused (.deleteAttributeNowhere typed nothing)
  · have held := catalogue_held row
    have result : deleteAttributeIn source key.tenant key.resourceType key.name gone p.database = _ :=
      deleteAttributeIn_of_row h.consistent.intact typed row gone
    split at result
    next there =>
      refine heeds_of_ok h.toHealthy rfl result ?_
      rw [catalogue_deleted h.filed row]
      exact .deleteAttribute typed held there (source.readsWithin (Nat.le_refl _) (Nat.lt_succ_self _))
    next absent => exact heeds_of_error h.toHealthy rfl result (.deleteAttributeAbsent typed held absent)

end OneAttribute

theorem manager_heeds (h : p.Orderly source) (names : Injective source.name) {α : Type}
    (request : ConfigurationRequest α) : Heeds source p request := by
  cases request with
  | type name => exact type_heeds h name
  | addType draft => exact addType_heeds h names draft
  | resource tenant resourceType name => exact resource_heeds h ⟨tenant, resourceType, name⟩
  | replace tenant resourceType draft => exact replace_heeds h names tenant resourceType draft
  | addAttribute tenant resourceType name entry =>
    exact addAttribute_heeds h ⟨tenant, resourceType, name⟩ entry
  | deleteAttribute tenant resourceType name gone =>
    exact deleteAttribute_heeds h ⟨tenant, resourceType, name⟩ gone

theorem ensureType_known (h : p.Orderly source) {draft : ResourceTypeDraft} {t : ResourceType}
    (known : p.database.typeOf? draft.name = some t) : ((manager source).ensureType draft).run p = (.ok t, p) := by
  have asked : ((manager source).answer (.type draft.name)).run p = _ := run_type h.toHealthy draft.name
  rw [known] at asked
  simp only [ensureType, ExceptT.run_mk]
  rw [asked]

theorem ensureType_ensures (h : p.Orderly source) (names : Injective source.name)
    (draft : ResourceTypeDraft) :
    ∃ t q, ((manager source).ensureType draft).run p = (.ok t, q) ∧
      p.database.catalogue.Ensures draft t q.database.catalogue ∧ q.Orderly source ∧
        p.database.drawn ≤ q.database.drawn := by
  cases found : p.database.typeOf? draft.name with
  | some t => exact ⟨t, p, ensureType_known h found, .kept found, h, Nat.le_refl _⟩
  | none =>
    have asked : ((manager source).answer (.type draft.name)).run p = _ := run_type h.toHealthy draft.name
    have added := addTypeIn_eq h.filed h.consistent.intact names draft
    rw [found] at asked added
    have ran : ((manager source).answer (.addType draft)).run p = _ := h.toHealthy.run_transact_ok added
    have orderly := (manager_writes h names (.addType draft)).orderly h
    rw [ran] at orderly
    refine ⟨p.database.nextType source draft, ⟨p.database.withType source draft, true⟩, ?_, ?_, orderly,
      Nat.le_succ _⟩
    · simp only [ensureType, ExceptT.run_mk]
      rw [asked]
      exact ran
    · rw [catalogue_withType h.filed names found]
      exact .made found (h.filed.unused names (Nat.le_refl _))

end Requests

end ConfigurationManager.Tables

namespace ConfigurationEvent

open ConfigurationManager.Tables

variable {source : Source} {p : Pool}

theorem run_follows (h : p.Orderly source) (names : Injective source.name) (event : ConfigurationEvent) :
    ∃ exchange q, event.run source p = (exchange, q) ∧
      p.database.catalogue.Follows Catalogue.differ (source.ReadsWithin p.database.drawn q.database.drawn) exchange
        q.database.catalogue ∧ q.Orderly source ∧ p.database.drawn ≤ q.database.drawn := by
  cases event with
  | ask request =>
    obtain ⟨answered, q, ran, answers⟩ := manager_heeds h names request
    have writes := manager_writes h names request
    rw [ran] at writes
    have orderly := writes.orderly h
    obtain ⟨_, _, refiles, _⟩ := writes
    exact ⟨.asked request answered, q, by rw [run, ran], .asked answers, orderly, refiles.configured.drawn⟩
  | ensureType draft =>
    obtain ⟨t, q, ran, ensures, orderly, order⟩ := ensureType_ensures h names draft
    exact ⟨.ensured draft (.ok t), q, by rw [run, ran], .ensured ensures, orderly, order⟩

theorem runAll_serves (h : p.Orderly source) (names : Injective source.name) (events : List ConfigurationEvent) :
    ∃ log q, runAll source events p = (log, q) ∧
      Catalogue.Serves source Catalogue.differ p.database.drawn p.database.catalogue log q.database.drawn
        q.database.catalogue ∧ q.Orderly source := by
  induction events generalizing p with
  | nil => exact ⟨[], p, rfl, .nil _ _, h⟩
  | cons event events ih =>
    obtain ⟨exchange, mid, ran, follows, orderly, order⟩ := run_follows h names event
    obtain ⟨log, q, ranAll, serves, ends⟩ := ih orderly
    exact ⟨exchange :: log, q, by simp only [runAll, ran, ranAll], .cons follows order serves, ends⟩

/-- Whatever the manager is asked from the empty tables on, it goes by the rules of the catalogue, where a change is seen
    once the clock has moved on since the resource was made; if the clock never shows one moment twice, each change is.
    A type is made once, and asking for it again, with any description, gives the one that was made. -/
theorem runs_serve_catalogue {source : Source} (names : Injective source.name) (events : List ConfigurationEvent) :
    ∃ log p, runAll source events .empty = (log, p) ∧
      Catalogue.Serves source Catalogue.differ 0 .empty log p.database.drawn p.database.catalogue ∧
      (Set.InjOn source.moment (Set.Iio p.database.drawn) →
        Catalogue.Serves source (fun _ _ => true) 0 .empty log p.database.drawn p.database.catalogue) ∧
      p.database.catalogue.Sound ∧
      ∀ draft, ∃ t q, ((manager source).ensureType draft).run p = (.ok t, q) ∧
        ∀ again : ResourceTypeDraft, again.name = draft.name →
          ((manager source).ensureType again).run q = (.ok t, q) := by
  obtain ⟨log, p, ran, serves, orderly⟩ := runAll_serves (.empty source) names events
  have started : Catalogue.Serves source Catalogue.differ 0 .empty log p.database.drawn p.database.catalogue := serves
  refine ⟨log, p, ran, started, started.all_seen, started.sound Catalogue.empty_sound, fun draft => ?_⟩
  obtain ⟨t, q, made, ensures, orderlyThen, _⟩ := ensureType_ensures orderly names draft
  refine ⟨t, q, made, fun again same => ensureType_known orderlyThen ?_⟩
  rw [same]
  exact ensures.types_eq

def uses : List ConfigurationEvent :=
  [.ensureType ⟨"CORS_URL", none⟩,
    .ask (.replace ⟨1⟩ "CORS_URL" ⟨"corsUrls", [⟨"k", "a"⟩]⟩),
    .ask (.replace ⟨1⟩ "CORS_URL" ⟨"corsUrls", [⟨"k", "b"⟩, ⟨"k", "c"⟩]⟩),
    .ask (.addAttribute ⟨1⟩ "CORS_URL" "corsUrls" ⟨"l", "d"⟩)]

theorem uses_serve_catalogue : Injective Source.strokes.name ∧
    ∃ log p, runAll .strokes uses .empty = (log, p) ∧
      Catalogue.Serves .strokes Catalogue.differ 0 .empty log p.database.drawn p.database.catalogue ∧
      Catalogue.Serves .strokes (fun _ _ => true) 0 .empty log p.database.drawn p.database.catalogue ∧
      p.database.catalogue.Sound ∧
      p.database.contents ⟨⟨1⟩, "CORS_URL", "corsUrls"⟩ = some [⟨"k", "a"⟩, ⟨"l", "d"⟩] := by
  obtain ⟨log, p, ran, serves, seen, sound, _⟩ := runs_serve_catalogue Source.strokes_names uses
  refine ⟨Source.strokes_names, log, p, ran, serves, seen Source.strokes_moments.injOn, sound, ?_⟩
  have stored : (runAll .strokes uses .empty).2.database.contents ⟨⟨1⟩, "CORS_URL", "corsUrls"⟩ =
      some [⟨"k", "a"⟩, ⟨"l", "d"⟩] := by decide +kernel
  rwa [ran] at stored

end ConfigurationEvent

end OriginRegistry
