import OriginRegistry.Proofs.OriginStore.Consistency

set_option autoImplicit false

namespace OriginRegistry

/-- For whom an origin is allowed. -/
inductive Scope
  | tenantLevel
  | application (id : ApplicationId)
  deriving DecidableEq, Repr

namespace Database

def Carries (db : Database) (r : OriginRow) : Scope → Prop
  | .tenantLevel => r.tenantLevel = true
  | .application a => ⟨r.id, a⟩ ∈ db.associations

def Allows (db : Database) (tenant : TenantId) (scope : Scope) (origin : Origin) : Prop :=
  ∃ r ∈ db.origins, r.tenant = tenant ∧ r.origin = origin ∧ db.Carries r scope

def NoDangling (db : Database) : Prop := ∀ o ∈ db.origins, ∃ scope, db.Carries o scope

variable {db : Database} {source : Source} {tenant : TenantId} {origin : Origin}

theorem not_isDangling_iff {o : OriginRow} : db.isDangling o = false ↔ ∃ scope, db.Carries o scope := by
  rw [← Bool.not_eq_true, isDangling_iff]
  constructor
  · intro h
    by_cases level : o.tenantLevel = true
    · exact ⟨.tenantLevel, level⟩
    · have used : ¬ ∀ a ∈ db.associations, a.origin ≠ o.id := fun unused => h ⟨by simpa using level, unused⟩
      push Not at used
      obtain ⟨⟨id, application⟩, ha, rfl⟩ := used
      exact ⟨.application application, ha⟩
  · rintro ⟨scope, carries⟩ ⟨level, unused⟩
    cases scope with
    | tenantLevel => exact absurd (level.symm.trans carries) (by decide)
    | application a => exact unused _ carries rfl

section SameRows

variable {after : Database}

theorem carries_congr (associations : after.associations = db.associations) {o : OriginRow} {scope : Scope} :
    after.Carries o scope ↔ db.Carries o scope := by
  cases scope with
  | tenantLevel => exact Iff.rfl
  | application a => simp only [Carries, associations]

theorem allows_congr (origins : after.origins = db.origins) (associations : after.associations = db.associations)
    {scope : Scope} : after.Allows tenant scope origin ↔ db.Allows tenant scope origin := by
  simp only [Allows, origins, carries_congr associations]

theorem NoDangling.congr (tidy : db.NoDangling) (origins : after.origins = db.origins)
    (associations : after.associations = db.associations) : after.NoDangling := by
  simpa only [NoDangling, origins, carries_congr associations] using tidy

end SameRows

theorem allows_relevel {level : OriginRow → Bool} {scope : Scope} :
    (db.relevel level).Allows tenant scope origin ↔
      ∃ r ∈ db.origins, r.tenant = tenant ∧ r.origin = origin ∧
        match scope with
        | .tenantLevel => level r = true
        | .application a => ⟨r.id, a⟩ ∈ db.associations := by
  constructor
  · rintro ⟨_, hr', ht, ho, carries⟩
    obtain ⟨r, hr, rfl⟩ := mem_relevel.1 hr'
    refine ⟨r, hr, ht, ho, ?_⟩
    cases scope <;> exact carries
  · rintro ⟨r, hr, ht, ho, carries⟩
    refine ⟨_, mem_relevel.2 ⟨r, hr, rfl⟩, ht, ho, ?_⟩
    cases scope <;> exact carries

theorem allows_lower (h : db.Consistent) {gone : OriginRow → Bool} {scope : Scope} :
    (db.lower gone).Allows tenant scope origin ↔
      db.Allows tenant scope origin ∧
        ¬ (scope = .tenantLevel ∧ ∃ r ∈ db.origins, r.tenant = tenant ∧ r.origin = origin ∧ gone r = true) := by
  rw [lower, allows_relevel]
  constructor
  · rintro ⟨r, hr, ht, ho, carries⟩
    cases scope with
    | tenantLevel =>
      obtain ⟨level, kept⟩ := Bool.and_eq_true_iff.1 carries
      refine ⟨⟨r, hr, ht, ho, level⟩, ?_⟩
      rintro ⟨_, s, hs, hst, hso, away⟩
      rw [h.eq_of_text hs hr (hst.trans ht.symm) (hso.trans ho.symm)] at away
      simp [away] at kept
    | application a =>
      refine ⟨⟨r, hr, ht, ho, carries⟩, ?_⟩
      rintro ⟨level, _⟩
      cases level
  · rintro ⟨⟨r, hr, ht, ho, carries⟩, stays⟩
    refine ⟨r, hr, ht, ho, ?_⟩
    cases scope with
    | tenantLevel =>
      have kept : gone r = false := by
        rw [← Bool.not_eq_true]
        exact fun away => stays ⟨rfl, r, hr, ht, ho, away⟩
      exact Bool.and_eq_true_iff.2 ⟨carries, by simp [kept]⟩
    | application a => exact carries

theorem allows_unlink (h : db.Consistent) {application : ApplicationId} {drop : Association → Bool}
    {gone : OriginRow → Bool} {scope : Scope}
    (dropped : ∀ r ∈ db.origins, ∀ b, drop ⟨r.id, b⟩ = (decide (b = application) && gone r)) :
    (db.unlink drop).Allows tenant scope origin ↔
      db.Allows tenant scope origin ∧ ¬ (scope = .application application ∧
        ∃ r ∈ db.origins, r.tenant = tenant ∧ r.origin = origin ∧ gone r = true) := by
  have carries_iff : ∀ r ∈ db.origins, ((db.unlink drop).Carries r scope ↔
      db.Carries r scope ∧ ¬ (scope = .application application ∧ gone r = true)) := by
    intro r hr
    cases scope with
    | tenantLevel => simp [Carries]
    | application b => simp [Carries, Database.unlink, dropped r hr, imp_iff_not_or]
  constructor
  · rintro ⟨r, hr, ht, ho, carries⟩
    obtain ⟨before, stays⟩ := (carries_iff r hr).1 carries
    refine ⟨⟨r, hr, ht, ho, before⟩, ?_⟩
    rintro ⟨hs, s, hs', hst, hso, away⟩
    rw [h.eq_of_text hs' hr (hst.trans ht.symm) (hso.trans ho.symm)] at away
    exact stays ⟨hs, away⟩
  · rintro ⟨⟨r, hr, ht, ho, carries⟩, stays⟩
    exact ⟨r, hr, ht, ho, (carries_iff r hr).2 ⟨carries, fun ⟨hs, away⟩ => stays ⟨hs, r, hr, ht, ho, away⟩⟩⟩

theorem allows_sweep {of : TenantId} {scope : Scope} :
    (db.sweep of).Allows tenant scope origin ↔ db.Allows tenant scope origin := by
  have same : ∀ r, (db.sweep of).Carries r scope ↔ db.Carries r scope := fun _ => carries_congr rfl
  constructor
  · rintro ⟨r, hr, ht, ho, carries⟩
    exact ⟨r, (mem_sweep.1 hr).1, ht, ho, (same r).1 carries⟩
  · rintro ⟨r, hr, ht, ho, carries⟩
    refine ⟨r, mem_sweep.2 ⟨hr, ?_⟩, ht, ho, (same r).2 carries⟩
    rintro ⟨_, dangling⟩
    rw [not_isDangling_iff.2 ⟨scope, carries⟩] at dangling
    exact absurd dangling (by decide)

theorem allows_raise (h : db.Consistent) {r : OriginRow} (hr : r ∈ db.origins) {scope : Scope} :
    (db.relevel fun o => o.tenantLevel || o.id = r.id).Allows tenant scope origin ↔
      db.Allows tenant scope origin ∨ tenant = r.tenant ∧ scope = .tenantLevel ∧ origin = r.origin := by
  rw [allows_relevel]
  constructor
  · rintro ⟨s, hs, rfl, rfl, carries⟩
    cases scope with
    | tenantLevel =>
      rcases Bool.or_eq_true_iff.1 carries with level | same
      · exact .inl ⟨s, hs, rfl, rfl, level⟩
      · obtain rfl := h.eq_of_id hs hr (of_decide_eq_true same)
        exact .inr ⟨rfl, rfl, rfl⟩
    | application a => exact .inl ⟨s, hs, rfl, rfl, carries⟩
  · rintro (⟨s, hs, rfl, rfl, carries⟩ | ⟨rfl, rfl, rfl⟩)
    · refine ⟨s, hs, rfl, rfl, ?_⟩
      cases scope with
      | tenantLevel => exact Bool.or_eq_true_iff.2 (.inl carries)
      | application a => exact carries
    · exact ⟨r, hr, rfl, rfl, by simp⟩

theorem allows_enter (h : db.Consistent) {of : TenantId} {new : Origin} (can : db.Enterable source of new)
    {level : Bool} {scope : Scope} :
    (db.enter source of new level).Allows tenant scope origin ↔
      db.Allows tenant scope origin ∨ level = true ∧ tenant = of ∧ scope = .tenantLevel ∧ origin = new := by
  have same : ∀ r, (db.enter source of new level).Carries r scope ↔ db.Carries r scope := fun _ => carries_congr rfl
  constructor
  · rintro ⟨r, hr, ht, ho, carries⟩
    rcases mem_enter.1 hr with hr | rfl
    · exact .inl ⟨r, hr, ht, ho, (same r).1 carries⟩
    · cases scope with
      | tenantLevel => exact .inr ⟨carries, ht.symm, rfl, ho.symm⟩
      | application a => exact absurd carries (h.nextRow_unlinked can.room a)
  · rintro (⟨r, hr, ht, ho, carries⟩ | ⟨rfl, rfl, rfl, rfl⟩)
    · exact ⟨r, mem_enter.2 (.inl hr), ht, ho, (same r).2 carries⟩
    · exact ⟨_, mem_enter.2 (.inr rfl), rfl, rfl, rfl⟩

theorem carries_link {a : Association} {o : OriginRow} {scope : Scope} :
    (db.link a).Carries o scope ↔ db.Carries o scope ∨ scope = .application a.application ∧ o.id = a.origin := by
  obtain ⟨id, application⟩ := a
  cases scope with
  | tenantLevel =>
    constructor
    · exact Or.inl
    · rintro (before | ⟨away, _⟩)
      · exact before
      · cases away
  | application b =>
    change _ ∈ (db.link ⟨id, application⟩).associations ↔ _
    rw [mem_link, Association.mk.injEq, Scope.application.injEq, or_comm, and_comm]
    exact Iff.rfl

theorem allows_link (h : db.Consistent) {r : OriginRow} (hr : r ∈ db.origins) {application : ApplicationId}
    {scope : Scope} :
    (db.link ⟨r.id, application⟩).Allows tenant scope origin ↔
      db.Allows tenant scope origin ∨
        tenant = r.tenant ∧ scope = .application application ∧ origin = r.origin := by
  constructor
  · rintro ⟨s, hs, rfl, rfl, carries⟩
    rcases carries_link.1 carries with before | ⟨rfl, same⟩
    · exact .inl ⟨s, hs, rfl, rfl, before⟩
    · obtain rfl := h.eq_of_id hs hr same
      exact .inr ⟨rfl, rfl, rfl⟩
  · rintro (⟨s, hs, rfl, rfl, carries⟩ | ⟨rfl, rfl, rfl⟩)
    · exact ⟨s, hs, rfl, rfl, carries_link.2 (.inl carries)⟩
    · exact ⟨r, hr, rfl, rfl, carries_link.2 (.inr ⟨rfl, rfl⟩)⟩

end Database

end OriginRegistry
