import Mathlib.Data.Finset.Basic
import Mathlib.Data.Finset.Dedup
import OriginRegistry.Proofs.Management.Runs

/-!
# The registry as sets of origins

For each tenant there is a set of origins of tenant level and a set for each application. Changes that succeed replace,
join or reduce one of these sets; nothing else touches them. The tables hold the same sets, although one row stands for
an origin in all of them.
-/

set_option autoImplicit false

namespace OriginRegistry

/-- The origins that are allowed for each scope of a tenant. -/
abbrev AllowList := Scope → Finset Origin

def Origin.normalised (texts : List String) : Finset Origin :=
  (texts.filterMap fun text => (parse text).toOption).toFinset

def Database.originsWith (db : Database) (tenant : TenantId) (ids : List String) : Finset Origin :=
  (((db.originsOf tenant).filter fun o => ids.contains o.externalId.val).map OriginRow.origin).toFinset

namespace OriginChange

def scope? (db : Database) (c : OriginChange) : Option Scope :=
  match c.resourceId? with
  | none => some .tenantLevel
  | some resourceId => (db.applicationOf? c.domain resourceId).map fun a => .application a.id

def applied (db : Database) (c : OriginChange) (tenant : TenantId) (allowed : Finset Origin) : Finset Origin :=
  match c.kind with
  | .set => Origin.normalised c.items
  | .add => allowed ∪ Origin.normalised c.items
  | .delete => allowed \ db.originsWith tenant c.items

def put (allowed : TenantId → AllowList) (tenant : TenantId) (scope : Scope) (origins : Finset Origin) :
    TenantId → AllowList :=
  Function.update allowed tenant (Function.update (allowed tenant) scope origins)

def record (db : Database) (c : OriginChange) (allowed : TenantId → AllowList) : TenantId → AllowList :=
  match db.tenantOf? c.domain, c.scope? db with
  | some tenant, some scope => put allowed tenant scope (c.applied db tenant (allowed tenant scope))
  | _, _ => allowed

end OriginChange

/-- A registry, and beside it the sets that its tenants ought to have. -/
structure Ledger where
  allowed : TenantId → AllowList
  pool : Pool

namespace Ledger

def empty : Ledger := ⟨fun _ _ => ∅, .empty⟩

/-- Only a change of origins that succeeds is recorded. -/
def step (source : Source) (l : Ledger) (event : ServiceEvent) : Ledger where
  allowed :=
    match event with
    | .register _ => l.allowed
    | .manage request =>
      match request.change? with
      | some c =>
        if (((Management.onTables source).answer request).run l.pool).1.isOk then c.record l.pool.database l.allowed
        else l.allowed
      | none => l.allowed
  pool := ServiceEvent.step source l.pool event

def after (source : Source) (events : List ServiceEvent) : Ledger := events.foldl (step source) empty

theorem after_pool (source : Source) (events : List ServiceEvent) :
    (after source events).pool = ServiceEvent.after source events :=
  (List.foldl_hom Ledger.pool fun _ _ => rfl).symm

end Ledger

section Changes

open Database

variable {source : Source} {db after : Database} {tenant : TenantId} {scope : Scope} {origin : Origin}

theorem Origin.mem_normalised {texts : List String} :
    origin ∈ normalised texts ↔ ∃ text ∈ texts, parse text = .ok origin := by
  have reads : ∀ text, (parse text).toOption = some origin ↔ parse text = .ok origin := by
    intro text
    cases parse text <;> simp [Except.toOption]
  simp [normalised, reads]

theorem Origin.mem_normalised_of_parseAll {texts : List String} {origins : List Origin}
    (ok : parseAll texts = .ok origins) : origin ∈ normalised texts ↔ origin ∈ origins := by
  rw [mem_normalised, mem_of_parseAll ok]

theorem Database.mem_originsWith {ids : List String} :
    origin ∈ db.originsWith tenant ids ↔
      ∃ o ∈ db.origins, o.tenant = tenant ∧ o.origin = origin ∧ o.externalId.val ∈ ids := by
  simp only [originsWith, List.mem_toFinset, List.mem_map, List.mem_filter, mem_originsOf, List.contains_iff_mem]
  constructor
  · rintro ⟨o, ⟨⟨ho, own⟩, listed⟩, same⟩
    exact ⟨o, ho, own, same, listed⟩
  · rintro ⟨o, ho, own, same, listed⟩
    exact ⟨o, ⟨⟨ho, own⟩, listed⟩, same⟩

theorem OriginChange.mem_put {allowed : TenantId → AllowList} {origins : Finset Origin} {t : TenantId} {s : Scope} :
    origin ∈ put allowed tenant scope origins t s ↔
      if t = tenant ∧ s = scope then origin ∈ origins else origin ∈ allowed t s := by
  unfold put
  by_cases ht : t = tenant
  · subst ht
    by_cases hs : s = scope
    · subst hs
      simp
    · simp [hs]
  · simp [ht]

/-- An effect that takes from rows of its tenant only changes one set. -/
theorem Database.Effect.allows_iff {gone : OriginRow → Bool} {texts origins : List Origin}
    (effect : Effect source ⟨tenant, scope, texts⟩ gone origins db after)
    (own : ∀ o ∈ db.origins, gone o = true → o.tenant = tenant) {t : TenantId} {s : Scope} :
    after.Allows t s origin ↔
      if t = tenant ∧ s = scope then
        db.Allows tenant scope origin ∧
            ¬ (∃ o ∈ db.origins, o.tenant = tenant ∧ o.origin = origin ∧ gone o = true) ∨ origin ∈ origins
      else db.Allows t s origin := by
  rw [effect.allows]
  split
  next here =>
    obtain ⟨rfl, rfl⟩ := here
    simp
  next elsewhere =>
    constructor
    · rintro (⟨before, _⟩ | ⟨ht, hs, _⟩)
      · exact before
      · exact absurd ⟨ht, hs⟩ elsewhere
    · refine fun before => .inl ⟨before, ?_⟩
      rintro ⟨hs, o, ho, ht, _, away⟩
      exact elsewhere ⟨ht.symm.trans (own o ho away), hs⟩

variable {c : OriginChange} {request : OriginRequest Unit} {allowed : Finset Origin}

theorem OriginRequest.setFor_withdraws {origins : List Origin} {o : OriginRow} :
    (setFor tenant scope origins).withdraws o = decide (o.tenant = tenant) := by
  cases scope <;> rfl

theorem OriginRequest.addFor_withdraws {origins : List Origin} : (addFor tenant scope origins).withdraws = noRow := by
  cases scope <;> rfl

theorem OriginChange.deleteFor_withdraws (h : db.Consistent) {domain : String} {items : List String}
    {ids : List OriginId}
    (found : Management.internalIds domain (db.listing (db.shownFor tenant scope)) items = .ok ids)
    {o : OriginRow} (ho : o ∈ db.origins) :
    (OriginRequest.deleteFor tenant scope ids).withdraws o = true ↔
      db.shownFor tenant scope o = true ∧ o.externalId.val ∈ items := by
  rw [← mem_found h found ho, ← List.contains_iff_mem]
  cases scope with
  | tenantLevel =>
    change (decide (o.tenant = tenant) && ids.contains o.id) = true ↔ _
    rw [Bool.and_eq_true, decide_eq_true_eq, and_iff_right_iff_imp]
    exact fun named => (shownFor_iff.1 ((mem_found h found ho).1 (List.contains_iff_mem.1 named)).1).1
  | application a => exact Iff.rfl

/-- After a change, one set is what the change makes of it, and the others are what they were. -/
theorem OriginChange.allows_after (h : db.Consistent) (asks : c.Asks db tenant scope request)
    (inside : ¬ request.CrossesIn db) (changed : request.changeIn source db = .ok after)
    (before : ∀ origin, origin ∈ allowed ↔ db.Allows tenant scope origin) {t : TenantId} {s : Scope} :
    after.Allows t s origin ↔
      if t = tenant ∧ s = scope then origin ∈ c.applied db tenant allowed else db.Allows t s origin := by
  obtain ⟨kind, domain, resourceId?, items⟩ := c
  cases kind with
  | set =>
    obtain ⟨origins, read, rfl⟩ := asks
    have effect := OriginRequest.effect_of_changeIn OriginRequest.setFor_warrant h inside changed
    rw [effect.allows_iff fun o _ away => by simpa [OriginRequest.setFor_withdraws] using away]
    refine iff_of_eq (if_congr Iff.rfl (propext ?_) rfl)
    change _ ↔ origin ∈ Origin.normalised items
    rw [Origin.mem_normalised_of_parseAll read, or_iff_right_iff_imp]
    rintro ⟨⟨o, ho, own, same, _⟩, stays⟩
    exact absurd ⟨o, ho, own, same, by simpa [OriginRequest.setFor_withdraws] using own⟩ stays
  | add =>
    obtain ⟨origins, read, rfl, _⟩ := asks
    have effect := OriginRequest.effect_of_changeIn OriginRequest.addFor_warrant h inside changed
    rw [effect.allows_iff fun o _ away => by simp [OriginRequest.addFor_withdraws, noRow] at away]
    refine iff_of_eq (if_congr Iff.rfl (propext ?_) rfl)
    change _ ↔ origin ∈ allowed ∪ Origin.normalised items
    rw [Finset.mem_union, before, Origin.mem_normalised_of_parseAll read]
    simp [OriginRequest.addFor_withdraws, noRow]
  | delete =>
    obtain ⟨ids, found, rfl⟩ := asks
    have effect := OriginRequest.effect_of_changeIn OriginRequest.deleteFor_warrant h inside changed
    have away_iff : ∀ o ∈ db.origins, _ := fun o ho => deleteFor_withdraws (o := o) h found ho
    rw [effect.allows_iff fun o ho away => (shownFor_iff.1 ((away_iff o ho).1 away).1).1]
    refine iff_of_eq (if_congr Iff.rfl (propext ?_) rfl)
    change _ ↔ origin ∈ allowed \ db.originsWith tenant items
    rw [Finset.mem_sdiff, before, mem_originsWith, or_iff_left List.not_mem_nil]
    refine and_congr_right fun has => not_congr ?_
    obtain ⟨r, hr, rowOwn, rowText, carries⟩ := has
    constructor
    · rintro ⟨o, ho, own, same, away⟩
      exact ⟨o, ho, own, same, ((away_iff o ho).1 away).2⟩
    · rintro ⟨o, ho, own, same, listed⟩
      -- the row with the text is the one that carries the scope, so that it is shown for it
      have here : o = r := h.eq_of_text ho hr (own.trans rowOwn.symm) (same.trans rowText.symm)
      subst here
      refine ⟨o, ho, own, same, (away_iff o ho).2 ⟨shownFor_iff.2 ⟨own, ?_⟩, listed⟩⟩
      rintro a rfl
      exact carries

end Changes

structure Ledger.Faithful (source : Source) (l : Ledger) : Prop where
  sound : l.pool.Sound source
  same : ∀ tenant scope origin, origin ∈ l.allowed tenant scope ↔ l.pool.database.Allows tenant scope origin

namespace Ledger

open Database

variable {source : Source}

theorem empty_faithful (source : Source) : empty.Faithful source where
  sound := Pool.Sound.empty source
  same := by
    intro tenant scope origin
    refine ⟨fun has => absurd has (Finset.notMem_empty origin), ?_⟩
    rintro ⟨o, ho, _⟩
    exact absurd ho List.not_mem_nil

theorem record_planned {db : Database} {c : OriginChange} {tenant : TenantId} {scope : Scope}
    (tenantFound : db.findTenant c.domain = .ok tenant) (scopeFound : db.findScope c.domain c.resourceId? = .ok scope)
    (allowed : TenantId → AllowList) :
    c.record db allowed = OriginChange.put allowed tenant scope (c.applied db tenant (allowed tenant scope)) := by
  have found : c.scope? db = some scope := by
    unfold OriginChange.scope?
    rcases findScope_eq_ok scopeFound with ⟨asked, rfl⟩ | ⟨resourceId, application, asked, found, rfl⟩
    · rw [asked]
    · simp [asked, found]
  rw [OriginChange.record, (findTenant_eq_ok_iff.1 tenantFound).2, found]

theorem change_same {l : Ledger} (h : l.Faithful source) (c : OriginChange) {tenant : TenantId} {scope : Scope}
    {origin : Origin} :
    origin ∈ (l.step source (.manage (.change c))).allowed tenant scope ↔
      (l.step source (.manage (.change c))).pool.database.Allows tenant scope origin := by
  change origin ∈ (if (((Management.onTables source).change c).run l.pool).1.isOk then
      c.record l.pool.database l.allowed else l.allowed) tenant scope ↔
    (((Management.onTables source).change c).run l.pool).2.database.Allows tenant scope origin
  rcases Management.change_cases h.sound.toHealthy c with ⟨e, ran⟩ | ⟨request, after, planned, changed, ran⟩
  · rw [ran]
    exact h.same tenant scope origin
  · rw [ran]
    change origin ∈ c.record l.pool.database l.allowed tenant scope ↔ after.Allows tenant scope origin
    obtain ⟨_, _, inside, _⟩ := OriginChange.plan_warrant h.sound.consistent planned
    obtain ⟨own, addressed, tenantFound, scopeFound, asks⟩ := OriginChange.plan_eq_ok planned
    rw [record_planned tenantFound scopeFound, OriginChange.mem_put,
      OriginChange.allows_after h.sound.consistent asks inside changed (h.same own addressed)]
    exact iff_of_eq (if_congr Iff.rfl rfl (propext (h.same tenant scope origin)))

theorem step_faithful {l : Ledger} (h : l.Faithful source) (event : ServiceEvent) :
    (l.step source event).Faithful source where
  sound := ServiceEvent.step_sound h.sound event
  same := by
    intro tenant scope origin
    cases event with
    | register request =>
      have step := (request.perform_registers l.pool).2.origins
      exact (h.same tenant scope origin).trans (allows_congr step.1 step.2).symm
    | manage request =>
      have configured : request.change? = none →
          l.pool.Configured (((Management.onTables source).answer request).run l.pool).2 :=
        fun other => Management.answer_configured other l.pool
      cases request with
      | change c => exact change_same h c
      | _ =>
        have step := (configured rfl).2
        exact (h.same tenant scope origin).trans (allows_congr step.origins step.associations).symm

theorem after_faithful (source : Source) (events : List ServiceEvent) : (after source events).Faithful source :=
  List.foldlRecOn events (step source) (empty_faithful source) fun _ h event _ => step_faithful h event

end Ledger

end OriginRegistry
