import Mathlib.Logic.Relation
import OriginRegistry.Proofs.OriginStore.Scopes

/-!
# Changes on behalf of a tenant

An edit is one of the five changes of the tables, made on behalf of one tenant: it lets the rows of other tenants be.
What every edit keeps is kept by every sequence of them: the constraints of the tables, all that belongs to other
tenants, and what is known of the rows' origins, names and applications.
-/

set_option autoImplicit false

namespace OriginRegistry

/-- On whose behalf changes are made, and which allowances they may add. -/
structure Warrant where
  tenant : TenantId
  scope : Scope
  origins : List Origin

namespace Database

inductive Edit (source : Source) (w : Warrant) : Database → Database → Prop
  | relevel (db : Database) (level : OriginRow → Bool)
      (own : ∀ o ∈ db.origins, o.tenant ≠ w.tenant → level o = o.tenantLevel) : Edit source w db (db.relevel level)
  | unlink (db : Database) (drop : Association → Bool)
      (own : ∀ a ∈ db.associations, drop a = true → ∀ o ∈ db.origins, o.id = a.origin → o.tenant = w.tenant) :
      Edit source w db (db.unlink drop)
  | sweep (db : Database) : Edit source w db (db.sweep w.tenant)
  | enter (db : Database) (origin : Origin) (level : Bool) (allowed : origin ∈ w.origins)
      (can : db.Enterable source w.tenant origin) : Edit source w db (db.enter source w.tenant origin level)
  | link (db : Database) (r : OriginRow) (application : ApplicationId) (member : r ∈ db.origins)
      (own : r.tenant = w.tenant) (allowed : w.scope = .application application)
      (can : db.Linkable ⟨r.id, application⟩) : Edit source w db (db.link ⟨r.id, application⟩)

def Edits (source : Source) (w : Warrant) : Database → Database → Prop :=
  Relation.ReflTransGen (Edit source w)

def originsOf (db : Database) (tenant : TenantId) : List OriginRow := db.origins.filter fun o => o.tenant = tenant

def associationsOf (db : Database) (tenant : TenantId) : List Association :=
  db.associations.filter fun a => db.origins.any fun o => o.id = a.origin && o.tenant = tenant

structure SameFor (tenant : TenantId) (before after : Database) : Prop where
  origins : after.originsOf tenant = before.originsOf tenant
  associations : after.associationsOf tenant = before.associationsOf tenant

structure OriginsOnly (before after : Database) : Prop where
  tenants : after.tenants = before.tenants
  applications : after.applications = before.applications
  resourceTypes : after.resourceTypes = before.resourceTypes
  resources : after.resources = before.resources
  attributes : after.attributes = before.attributes
  drawn : before.drawn ≤ after.drawn

def DanglingOnlyOf (db : Database) (tenant : TenantId) : Prop :=
  ∀ o ∈ db.origins, o.tenant ≠ tenant → ∃ scope, db.Carries o scope

def Named (source : Source) (db : Database) : Prop :=
  ∀ o ∈ db.origins, ∃ k < db.drawn, o.externalId = ⟨source.name k⟩

def OneTenant (db : Database) : Prop :=
  ∀ o ∈ db.origins, ∀ r ∈ db.applications, ⟨o.id, r.application.id⟩ ∈ db.associations → o.tenant = r.tenant

def IsNormal (origin : Origin) : Prop := ∃ text, Origin.parse text = .ok origin

def AllNormal (db : Database) : Prop := ∀ o ∈ db.origins, IsNormal o.origin

variable {source : Source} {w : Warrant} {db after : Database}

theorem SameFor.refl (tenant : TenantId) (db : Database) : SameFor tenant db db := ⟨rfl, rfl⟩

theorem SameFor.trans {tenant : TenantId} {third : Database} (first : SameFor tenant db after)
    (second : SameFor tenant after third) : SameFor tenant db third :=
  ⟨second.origins.trans first.origins, second.associations.trans first.associations⟩

theorem mem_originsOf {tenant : TenantId} {o : OriginRow} :
    o ∈ db.originsOf tenant ↔ o ∈ db.origins ∧ o.tenant = tenant := by
  simp [originsOf]

theorem mem_associationsOf {o : OriginRow} (ho : o ∈ db.origins) {application : ApplicationId} :
    ⟨o.id, application⟩ ∈ db.associationsOf o.tenant ↔ ⟨o.id, application⟩ ∈ db.associations := by
  simp only [associationsOf, List.mem_filter, List.any_eq_true, Bool.and_eq_true, decide_eq_true_eq,
    and_iff_left_iff_imp]
  intro _
  exact ⟨o, ho, rfl, rfl⟩

theorem SameFor.mem_iff {tenant : TenantId} (same : SameFor tenant db after) {o : OriginRow}
    (own : o.tenant = tenant) : o ∈ after.origins ↔ o ∈ db.origins := by
  have rows : o ∈ after.originsOf tenant ↔ o ∈ db.originsOf tenant := by rw [same.origins]
  simpa only [mem_originsOf, own, and_true] using rows

theorem SameFor.carries_iff {tenant : TenantId} (same : SameFor tenant db after) {o : OriginRow}
    (own : o.tenant = tenant) (ho : o ∈ db.origins) {scope : Scope} : after.Carries o scope ↔ db.Carries o scope := by
  cases scope with
  | tenantLevel => exact Iff.rfl
  | application a =>
    change _ ∈ after.associations ↔ _ ∈ db.associations
    rw [← mem_associationsOf ((same.mem_iff own).2 ho), ← mem_associationsOf ho, own, same.associations]

theorem Named.congr (h : db.Named source) (origins : after.origins = db.origins) (drawn : db.drawn ≤ after.drawn) :
    after.Named source := by
  intro o ho
  rw [origins] at ho
  obtain ⟨k, before, name⟩ := h o ho
  exact ⟨k, Nat.lt_of_lt_of_le before drawn, name⟩

theorem AllNormal.congr (h : db.AllNormal) (origins : after.origins = db.origins) : after.AllNormal := by
  rw [AllNormal, origins]
  exact h

theorem filter_placeAssociation {p : Association → Bool} {a : Association} (skip : p a = false)
    (l : List Association) : (placeAssociation a l).filter p = l.filter p := by
  induction l with
  | nil => simp [placeAssociation, skip]
  | cons b rest ih =>
    unfold placeAssociation
    split
    · simp [List.filter_cons, skip]
    · simp only [List.filter_cons, ih]

theorem Edit.sameFor (edit : Edit source w db after) (h : db.Consistent) {tenant : TenantId}
    (other : tenant ≠ w.tenant) : SameFor tenant db after := by
  cases edit with
  | relevel level own =>
    constructor
    · simp only [originsOf, Database.relevel, List.filter_map, Function.comp_def]
      refine (List.map_congr_left fun o ho => ?_).trans (List.map_id _)
      obtain ⟨ho, hot⟩ := mem_originsOf.1 ho
      rw [own o ho (hot ▸ other)]
      rfl
    · simp only [associationsOf, Database.relevel, List.any_map, Function.comp_def]
  | unlink drop own =>
    constructor
    · rfl
    · simp only [associationsOf, Database.unlink, List.filter_filter]
      refine List.filter_congr fun a ha => ?_
      by_cases mine : (db.origins.any fun o => o.id = a.origin && o.tenant = tenant) = true
      · obtain ⟨o, ho, hox⟩ := List.any_eq_true.1 mine
        simp only [Bool.and_eq_true, decide_eq_true_eq] at hox
        have kept : drop a = false := by
          rw [← Bool.not_eq_true]
          intro dropped
          exact other (hox.2.symm.trans (own a ha dropped o ho hox.1))
        simp [mine, kept]
      · simp [Bool.not_eq_true _ ▸ mine]
  | sweep =>
    constructor
    · simp only [originsOf, Database.sweep, List.filter_filter]
      refine List.filter_congr fun o _ => ?_
      by_cases ho : o.tenant = tenant <;> simp [ho, other]
    · simp only [associationsOf, Database.sweep, List.any_filter]
      refine List.filter_congr fun a _ => ?_
      congr 1
      funext o
      by_cases ho : o.tenant = tenant <;> simp [ho, other]
  | enter origin level allowed can =>
    have mine : (db.nextRow source w.tenant origin level).tenant ≠ tenant := fun same => other same.symm
    constructor
    · simp [originsOf, Database.enter, List.filter_append, mine]
    · simp [associationsOf, Database.enter, mine]
  | link r application member own allowed can =>
    constructor
    · rfl
    · refine filter_placeAssociation ?_ _
      rw [← Bool.not_eq_true, List.any_eq_true]
      rintro ⟨o, ho, hox⟩
      simp only [Bool.and_eq_true, decide_eq_true_eq] at hox
      obtain rfl := h.eq_of_id ho member hox.1
      exact other (hox.2.symm.trans own)

theorem DanglingOnlyOf.of_sameFor {tenant : TenantId} (h : db.DanglingOnlyOf tenant)
    (same : ∀ other, other ≠ tenant → SameFor other db after) : after.DanglingOnlyOf tenant := by
  intro o ho foreign
  have before : o ∈ db.origins := ((same o.tenant foreign).mem_iff rfl).1 ho
  obtain ⟨scope, carries⟩ := h o before foreign
  exact ⟨scope, ((same o.tenant foreign).carries_iff rfl before).2 carries⟩

theorem DanglingOnlyOf.sweep {tenant : TenantId} (h : db.DanglingOnlyOf tenant) : (db.sweep tenant).NoDangling := by
  intro o ho
  obtain ⟨ho, kept⟩ := mem_sweep.1 ho
  have carried : ∃ scope, db.Carries o scope := by
    by_cases own : o.tenant = tenant
    · exact not_isDangling_iff.1 (Bool.not_eq_true _ ▸ fun dangling => kept ⟨own, dangling⟩)
    · exact h o ho own
  obtain ⟨scope, carries⟩ := carried
  exact ⟨scope, (carries_congr rfl).2 carries⟩

theorem Edit.consistent (edit : Edit source w db after) (h : db.Consistent) : after.Consistent := by
  cases edit with
  | relevel level own => exact h.relevel level
  | unlink drop own => exact h.unlink drop
  | sweep => exact h.sweep _
  | enter origin level allowed can => exact h.enter can level
  | link r application member own allowed can => exact h.link can

theorem Edit.originsOnly (edit : Edit source w db after) : OriginsOnly db after := by
  cases edit with
  | enter origin level allowed can => exact ⟨rfl, rfl, rfl, rfl, rfl, Nat.le_succ _⟩
  | _ => exact ⟨rfl, rfl, rfl, rfl, rfl, Nat.le_refl _⟩

/-- The rows after an edit are rows from before, but for the tenant level, and maybe a new one. -/
theorem Edit.row_cases (edit : Edit source w db after) {o : OriginRow} (ho : o ∈ after.origins) :
    (∃ r ∈ db.origins, ∃ level, o = { r with tenantLevel := level }) ∨
      ∃ origin ∈ w.origins, ∃ level, after = db.enter source w.tenant origin level ∧
        o = db.nextRow source w.tenant origin level := by
  cases edit with
  | relevel level own =>
    obtain ⟨r, hr, rfl⟩ := mem_relevel.1 ho
    exact .inl ⟨r, hr, level r, rfl⟩
  | unlink drop own => exact .inl ⟨o, ho, o.tenantLevel, rfl⟩
  | sweep => exact .inl ⟨o, (mem_sweep.1 ho).1, o.tenantLevel, rfl⟩
  | enter origin level allowed can =>
    rcases mem_enter.1 ho with ho | new
    · exact .inl ⟨o, ho, o.tenantLevel, rfl⟩
    · exact .inr ⟨origin, allowed, level, rfl, new⟩
  | link r application member own allowed can => exact .inl ⟨o, ho, o.tenantLevel, rfl⟩

theorem Edit.oneTenant (edit : Edit source w db after) (h : db.Consistent) (one : db.OneTenant)
    (owner : ∀ r ∈ db.applications, w.scope = .application r.application.id → r.tenant = w.tenant) :
    after.OneTenant := by
  cases edit with
  | relevel level own =>
    intro o ho r hr linked
    obtain ⟨s, hs, rfl⟩ := mem_relevel.1 ho
    exact one s hs r hr linked
  | unlink drop own => exact fun o ho r hr linked => one o ho r hr (List.mem_of_mem_filter linked)
  | sweep => exact fun o ho r hr linked => one o (mem_sweep.1 ho).1 r hr linked
  | enter origin level allowed can =>
    intro o ho r hr linked
    rcases mem_enter.1 ho with ho | rfl
    · exact one o ho r hr linked
    · exact absurd linked (h.nextRow_unlinked can.room _)
  | link s application member own allowed can =>
    intro o ho r hr linked
    rcases mem_link.1 linked with same | before
    · obtain ⟨hid, rfl⟩ := Association.mk.inj same
      obtain rfl := h.eq_of_id ho member hid
      exact own.trans (owner r hr allowed).symm
    · exact one o ho r hr before

theorem Edit.allNormal (edit : Edit source w db after) (h : db.AllNormal) (normal : ∀ o ∈ w.origins, IsNormal o) :
    after.AllNormal := by
  intro o ho
  rcases edit.row_cases ho with ⟨r, hr, level, rfl⟩ | ⟨origin, allowed, level, _, rfl⟩
  · exact h r hr
  · exact normal origin allowed

theorem Edits.consistent (edits : Edits source w db after) (h : db.Consistent) : after.Consistent := by
  induction edits with
  | refl => exact h
  | tail _ edit ih => exact edit.consistent ih

theorem OriginsOnly.refl (db : Database) : OriginsOnly db db := ⟨rfl, rfl, rfl, rfl, rfl, Nat.le_refl _⟩

theorem OriginsOnly.trans {third : Database} (first : OriginsOnly db after) (second : OriginsOnly after third) :
    OriginsOnly db third where
  tenants := second.tenants.trans first.tenants
  applications := second.applications.trans first.applications
  resourceTypes := second.resourceTypes.trans first.resourceTypes
  resources := second.resources.trans first.resources
  attributes := second.attributes.trans first.attributes
  drawn := Nat.le_trans first.drawn second.drawn

theorem Edits.originsOnly (edits : Edits source w db after) : OriginsOnly db after := by
  induction edits with
  | refl => exact .refl db
  | tail _ edit ih => exact ih.trans edit.originsOnly

theorem Edits.sameFor (edits : Edits source w db after) (h : db.Consistent) {tenant : TenantId}
    (other : tenant ≠ w.tenant) : SameFor tenant db after := by
  induction edits with
  | refl => exact .refl tenant db
  | tail edits edit ih => exact ih.trans (edit.sameFor (Edits.consistent edits h) other)

theorem Edits.oneTenant (edits : Edits source w db after) (h : db.Consistent) (one : db.OneTenant)
    (owner : ∀ r ∈ db.applications, w.scope = .application r.application.id → r.tenant = w.tenant) :
    after.OneTenant := by
  induction edits with
  | refl => exact one
  | tail edits edit ih =>
    refine edit.oneTenant (Edits.consistent edits h) ih ?_
    rw [(Edits.originsOnly edits).applications]
    exact owner

theorem Edits.allNormal (edits : Edits source w db after) (h : db.AllNormal)
    (normal : ∀ o ∈ w.origins, IsNormal o) : after.AllNormal := by
  induction edits with
  | refl => exact h
  | tail _ edit ih => exact edit.allNormal ih normal

end Database

/-- A source whose names are as many strokes as there were names before, and whose seconds pass likewise. -/
def Source.strokes : Source :=
  { name := fun n => String.ofList (List.replicate n '|'), moment := fun n => ⟨⟨1970, 1, 1⟩, n, 0⟩ }

theorem Source.strokes_names : Function.Injective Source.strokes.name := by
  intro m n same
  have lengths := congrArg String.length same
  simpa [Source.strokes] using lengths

theorem Source.strokes_moments : Function.Injective Source.strokes.moment :=
  fun _ _ same => congrArg Moment.second same

end OriginRegistry
