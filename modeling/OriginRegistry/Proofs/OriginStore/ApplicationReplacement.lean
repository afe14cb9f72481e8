import OriginRegistry.Proofs.OriginStore.NewRows
import OriginRegistry.Proofs.OriginStore.Success

/-!
# The origins of an application are replaced

The tenant's rows that are of tenant level, or used by another application, are left as they are; the others go. Each
listed text that no row is left for gets a new row, and the application uses the rows of the listed texts and no others
of the tenant. An origin that is listed twice, or an application that is not registered, is found out only when the old
uses are gone, and then all is as it was.
-/

set_option autoImplicit false

namespace OriginRegistry

namespace Database

/-- The rows of a tenant that are of use also without one application. -/
def keptRows (db : Database) (tenant : TenantId) (application : ApplicationId) : List OriginRow :=
  (db.originsOf tenant).filter fun o =>
    o.tenantLevel || db.associations.any fun a => a.origin = o.id && a.application ≠ application

def lackingFor (db : Database) (tenant : TenantId) (application : ApplicationId) (origins : List Origin) :
    List Origin :=
  unheld ((db.keptRows tenant application).map OriginRow.origin) origins

def usesBut (db : Database) (application : ApplicationId) : List Association :=
  db.associations.filter fun a => a.application ≠ application

def usedBy (db : Database) (tenant : TenantId) (application : ApplicationId) : List Origin :=
  ((db.originsOf tenant).filter fun o => db.associations.contains ⟨o.id, application⟩).map OriginRow.origin

structure ApplicationReplaced (source : Source) (tenant : TenantId) (application : ApplicationId)
    (origins : List Origin) (before after : Database) : Prop where
  rows : after.originsOf tenant = before.keptRows tenant application ++
    before.newRows source tenant false (before.lackingFor tenant application origins)
  brandNew : before.BrandNew (before.newRows source tenant false (before.lackingFor tenant application origins))
  lastOrigin : after.lastOrigin = before.lastOrigin + (before.lackingFor tenant application origins).length
  uses : (after.usedBy tenant application).Perm origins
  once : after.associations.Nodup
  otherUses : after.usesBut application = before.usesBut application
  others : ∀ other, other ≠ tenant → SameFor other before after
  originsOnly : OriginsOnly before after

/-- An origin is listed twice, or there is one and the application is not registered. -/
def RefusesUses (db : Database) (application : ApplicationId) (origins : List Origin) : Prop :=
  ¬ origins.Nodup ∨ origins ≠ [] ∧ ∀ r ∈ db.applications, r.application.id ≠ application

variable {source : Source} {db after : Database} {tenant : TenantId} {application : ApplicationId} {origin : Origin}
  {origins : List Origin}

def linksWith (db : Database) (tenant : TenantId) (application : ApplicationId) (a : Association) : Bool :=
  a.application = application && db.origins.any fun o => o.id = a.origin && o.tenant = tenant

theorem isUsed_unlinked {o : OriginRow} (ho : o ∈ db.origins) (own : o.tenant = tenant) :
    (db.unlink (db.linksWith tenant application)).isUsed o.id =
      db.associations.any fun a => a.origin = o.id && a.application ≠ application := by
  rw [Bool.eq_iff_iff]
  simp only [isUsed, unlink, List.any_eq_true, List.mem_filter, Bool.and_eq_true, decide_eq_true_eq]
  constructor
  · rintro ⟨a, ⟨ha, kept⟩, same⟩
    refine ⟨a, ha, same, fun mine => ?_⟩
    have linked : db.linksWith tenant application a = true := by
      simp only [linksWith, Bool.and_eq_true, decide_eq_true_eq, List.any_eq_true]
      exact ⟨mine, o, ho, same.symm, own⟩
    simp [linked] at kept
  · rintro ⟨a, ha, same, other⟩
    exact ⟨a, ⟨ha, by simp [linksWith, other]⟩, same⟩

/-- Once an application uses no origin of the tenant, the dangling rows are those that nobody else uses. -/
theorem originsOf_unlinked :
    ((db.unlink (db.linksWith tenant application)).sweep tenant).originsOf tenant = db.keptRows tenant application := by
  rw [keptRows, originsOf, originsOf, sweep, List.filter_filter, List.filter_filter]
  refine List.filter_congr fun o ho => ?_
  by_cases own : o.tenant = tenant
  · have used : (db.unlink (db.linksWith tenant application)).isUsed o.id = _ := isUsed_unlinked ho own
    simp [own, isDangling, used]
  · simp [own]

theorem textsOf_unlinked : ((db.unlink (db.linksWith tenant application)).sweep tenant).textsOf tenant =
    (db.keptRows tenant application).map OriginRow.origin := by
  rw [textsOf, originsOf_unlinked]

theorem mem_usedBy : origin ∈ db.usedBy tenant application ↔ db.Allows tenant (.application application) origin := by
  simp only [usedBy, List.mem_map, List.mem_filter, mem_originsOf, List.contains_iff_mem]
  constructor
  · rintro ⟨o, ⟨⟨ho, own⟩, linked⟩, text⟩
    exact ⟨o, ho, own, text, linked⟩
  · rintro ⟨o, ho, own, text, linked⟩
    exact ⟨o, ⟨⟨ho, own⟩, linked⟩, text⟩

theorem usedBy_nodup (h : db.Consistent) : (db.usedBy tenant application).Nodup := by
  have rows : db.origins.Nodup := h.ids.of_map _
  refine List.Nodup.map_on ?_ ((rows.filter _).filter _)
  intro o ho r hr same
  obtain ⟨ho, own⟩ := mem_originsOf.1 (List.mem_filter.1 ho).1
  obtain ⟨hr, owned⟩ := mem_originsOf.1 (List.mem_filter.1 hr).1
  exact h.eq_of_text ho hr (own.trans owned.symm) same

end Database

namespace OriginStore.Tables

open Database

variable {source : Source} {db after : Database} {tenant : TenantId} {application : ApplicationId} {origin : Origin}
  {origins : List Origin}

theorem use_own_effect (h : db.Consistent) (ok : use source tenant application db origin = .ok after) :
    Effect source ⟨tenant, .application application, [origin]⟩ noRow [origin] db after :=
  use_effect h (List.mem_singleton_self origin) ok

theorem use_ok_only (h : db.Consistent) (ok : use source tenant application db origin = .ok after) :
    ¬ db.Allows tenant (.application application) origin ∧ ∃ r ∈ db.applications, r.application.id = application := by
  rcases use_cases h.intact ok with ⟨r, hr, own, text, can, _⟩ | ⟨can, linkable, _⟩
  · refine ⟨?_, can.application⟩
    rintro ⟨s, hs, owned, held, linked⟩
    obtain rfl := h.eq_of_text hs hr (owned.trans own.symm) (held.trans text.symm)
    exact can.new linked
  · refine ⟨?_, linkable.application⟩
    rintro ⟨s, hs, owned, held, _⟩
    exact can.newText s hs owned held

/-- Whatever was linked, the rows are those that the texts without a row needed, and other applications keep their
    associations. -/
theorem foldlM_use_rows (h : db.Consistent) (ok : origins.foldlM (use source tenant application) db = .ok after) :
    ∃ associations, after =
        { db.enterAll source tenant false (unheld (db.textsOf tenant) origins) with associations := associations } ∧
      associations.filter (fun a => a.application ≠ application) = db.usesBut application := by
  induction origins generalizing db with
  | nil =>
    obtain rfl := pure_eq_ok_iff.1 ok
    exact ⟨db.associations, enterAll_nil.symm, rfl⟩
  | cons origin origins ih =>
    rw [List.foldlM_cons] at ok
    obtain ⟨mid, first, rest⟩ := bind_eq_ok_iff.1 ok
    have effect := use_own_effect h first
    obtain ⟨associations, rows, others⟩ := ih (effect.edits.consistent h) rest
    have skip : decide (application ≠ application) = false := decide_eq_false fun other => other rfl
    refine ⟨associations, ?_, ?_⟩
    · rcases use_cases h.intact first with ⟨r, hr, own, text, _, rfl⟩ | ⟨can, _, rfl⟩
      · have held : origin ∈ db.textsOf tenant := mem_textsOf.2 ⟨r, hr, own, text⟩
        rw [rows, unheld_held held]
        rfl
      · have texts : ((db.enter source tenant origin false).link
            ⟨(db.nextRow source tenant origin false).id, application⟩).textsOf tenant = db.textsOf tenant ++ [origin] :=
          textsOf_enter
        rw [rows, texts, unheld_new can.new, enterAll_cons]
        rfl
    · rw [others]
      rcases use_cases h.intact first with ⟨_, _, _, _, _, rfl⟩ | ⟨_, _, rfl⟩ <;>
        exact filter_placeAssociation skip db.associations

theorem foldlM_use_ok_only (h : db.Consistent) (ok : origins.foldlM (use source tenant application) db = .ok after) :
    origins.Nodup ∧ (∀ origin ∈ origins, ¬ db.Allows tenant (.application application) origin) ∧
      (origins ≠ [] → ∃ r ∈ db.applications, r.application.id = application) := by
  induction origins generalizing db with
  | nil => simp
  | cons origin origins ih =>
    rw [List.foldlM_cons] at ok
    obtain ⟨mid, first, rest⟩ := bind_eq_ok_iff.1 ok
    have effect := use_own_effect h first
    obtain ⟨distinct, unused, _⟩ := ih (effect.edits.consistent h) rest
    have used : mid.Allows tenant (.application application) origin :=
      (effect.allows tenant (.application application) origin).2 (.inr ⟨rfl, rfl, List.mem_singleton_self origin⟩)
    have before (x : Origin) (hx : db.Allows tenant (.application application) x) :
        mid.Allows tenant (.application application) x :=
      (effect.allows tenant (.application application) x).2 (.inl ⟨hx, by simp [noRow]⟩)
    obtain ⟨new, registered⟩ : ¬ db.Allows tenant (.application application) origin ∧
      ∃ r ∈ db.applications, r.application.id = application := use_ok_only h first
    refine ⟨List.nodup_cons.2 ⟨fun again => unused origin again used, distinct⟩, ?_, fun _ => registered⟩
    intro x hx uses
    rcases List.mem_cons.1 hx with rfl | hx
    · exact new uses
    · exact unused x hx (before x uses)

theorem Roomy.used (names : Function.Injective source.name) (h : Roomy source db tenant (origin :: origins))
    (ok : use source tenant application db origin = .ok after) : Roomy source after tenant origins := by
  have effect := use_own_effect h.consistent ok
  rcases use_cases h.consistent.intact ok with ⟨r, hr, own, text, _, rfl⟩ | ⟨can, _, rfl⟩
  · have left := h.held (mem_textsOf.2 ⟨r, hr, own, text⟩)
    exact ⟨effect.edits.consistent h.consistent, left.fresh, left.room⟩
  · have left := h.enter names can.new false
    exact ⟨effect.edits.consistent h.consistent, left.fresh, left.room⟩

theorem foldlM_use_ok (names : Function.Injective source.name) (h : Roomy source db tenant origins)
    (distinct : origins.Nodup) (registered : origins ≠ [] → ∃ r ∈ db.applications, r.application.id = application)
    (unused : ∀ origin ∈ origins, ¬ db.Allows tenant (.application application) origin) :
    ∃ after, origins.foldlM (use source tenant application) db = .ok after := by
  induction origins generalizing db with
  | nil => exact ⟨db, rfl⟩
  | cons origin origins ih =>
    obtain ⟨once, distinct⟩ := List.nodup_cons.1 distinct
    have known := registered (List.cons_ne_nil origin origins)
    have can (new : ∀ o ∈ db.origins, o.tenant = tenant → o.origin ≠ origin) : db.Enterable source tenant origin := by
      refine h.enterable fun held => ?_
      obtain ⟨o, ho, own, text⟩ := mem_textsOf.1 held
      exact new o ho own text
    obtain ⟨mid, first, _⟩ := use_ok_of_enterable h.consistent can known (unused origin List.mem_cons_self)
    have effect := use_own_effect h.consistent first
    have stillKnown : ∃ r ∈ mid.applications, r.application.id = application := by
      rw [effect.edits.originsOnly.applications]
      exact known
    have stillUnused (x : Origin) (hx : x ∈ origins) : ¬ mid.Allows tenant (.application application) x := by
      intro uses
      rcases (effect.allows tenant (.application application) x).1 uses with ⟨before, _⟩ | ⟨_, _, same⟩
      · exact unused x (List.mem_cons_of_mem _ hx) before
      · exact once (List.mem_singleton.1 same ▸ hx)
    obtain ⟨after, rest⟩ := ih (Roomy.used names h first) distinct (fun _ => stillKnown) stillUnused
    exact ⟨after, by rw [List.foldlM_cons, first, ok_bind, rest]⟩

theorem unlinked_roomy (h : db.Consistent) (fresh : db.FreshNames source)
    (room : db.lastOrigin + (db.lackingFor tenant application origins).length ≤ largestKey) :
    Roomy source ((db.unlink (db.linksWith tenant application)).sweep tenant) tenant origins where
  consistent := (h.unlink _).sweep tenant
  fresh := by
    have unlinked : (db.unlink (db.linksWith tenant application)).FreshNames source := fresh
    exact unlinked.sweep tenant
  room := by
    rw [textsOf_unlinked]
    exact room

theorem setApplicationIn_ok_iff (names : Function.Injective source.name) (h : db.Consistent)
    (fresh : db.FreshNames source)
    (room : db.lastOrigin + (db.lackingFor tenant application origins).length ≤ largestKey) :
    (∃ after, setApplicationIn source tenant application origins db = .ok after) ↔
      ¬ db.RefusesUses application origins := by
  have roomy := unlinked_roomy h fresh room
  rw [setApplicationIn_eq h.intact, RefusesUses, not_or, not_and, not_not]
  constructor
  · rintro ⟨after, ok⟩
    obtain ⟨distinct, _, registered⟩ := foldlM_use_ok_only roomy.consistent ok
    refine ⟨distinct, fun some none => ?_⟩
    obtain ⟨r, hr, same⟩ := registered some
    exact none r hr same
  · rintro ⟨distinct, registered⟩
    refine foldlM_use_ok names roomy distinct (fun some => ?_) fun origin _ => cleared_unused h origin
    have known := registered some
    push Not at known
    exact known

theorem setApplicationIn_replaces (names : Function.Injective source.name) (h : db.Consistent)
    (fresh : db.FreshNames source)
    (room : db.lastOrigin + (db.lackingFor tenant application origins).length ≤ largestKey)
    (ok : setApplicationIn source tenant application origins db = .ok after) :
    ApplicationReplaced source tenant application origins db after := by
  have effect := setApplicationIn_effect h ok
  have consistent := effect.edits.consistent h
  have roomy : Roomy source ((db.unlink (db.linksWith tenant application)).sweep tenant) tenant origins :=
    unlinked_roomy h fresh room
  rw [setApplicationIn_eq h.intact] at ok
  obtain ⟨distinct, _, _⟩ := foldlM_use_ok_only roomy.consistent ok
  obtain ⟨associations, same, others⟩ := foldlM_use_rows roomy.consistent ok
  constructor
  case rows =>
    rw [same]
    change (enterAll source _ tenant false _).originsOf tenant = _
    rw [originsOf_enterAll, originsOf_unlinked, textsOf_unlinked]
    rfl
  case brandNew => exact newRows_brandNew names h fresh room
  case lastOrigin =>
    rw [same]
    change db.lastOrigin + (unheld _ origins).length = _
    rw [textsOf_unlinked]
    rfl
  case uses =>
    refine (List.perm_ext_iff_of_nodup (usedBy_nodup consistent) distinct).2 fun x => ?_
    rw [mem_usedBy, effect.allows]
    constructor
    · rintro (⟨⟨r, hr, own, text, _⟩, kept⟩ | ⟨_, _, listed⟩)
      · exact absurd ⟨rfl, r, hr, own, text, decide_eq_true own⟩ kept
      · exact listed
    · exact fun listed => .inr ⟨rfl, rfl, listed⟩
  case once => exact consistent.pairs
  case otherUses =>
    have kept : ((db.unlink (db.linksWith tenant application)).sweep tenant).usesBut application =
        db.usesBut application := by
      simp only [usesBut, sweep, unlink, List.filter_filter]
      refine List.filter_congr fun a _ => ?_
      by_cases mine : a.application = application <;> simp [linksWith, mine]
    rw [usesBut, same]
    exact others.trans kept
  case others => exact fun other apart => effect.edits.sameFor h apart
  case originsOnly => exact effect.edits.originsOnly

end OriginStore.Tables

namespace OriginRequest

open Database OriginStore.Tables

variable {source : Source} {db : Database}

/-- With keys enough, the origins of an application are replaced just if each is listed once and the application is
    registered, or none is listed. -/
theorem setApplication_replaces (names : Function.Injective source.name) (h : db.Consistent)
    (fresh : db.FreshNames source) (tenant : TenantId) (application : ApplicationId) (origins : List Origin)
    (room : db.lastOrigin + (db.lackingFor tenant application origins).length ≤ largestKey) :
    ((∃ e, ((store source).answer (.setApplication tenant application origins)).run ⟨db, true⟩ =
        (.error e, ⟨db, true⟩)) ↔ db.RefusesUses application origins) ∧
    (¬ db.RefusesUses application origins →
      ∃ after, ((store source).answer (.setApplication tenant application origins)).run ⟨db, true⟩ =
          (.ok (), ⟨after, true⟩) ∧
        ApplicationReplaced source tenant application origins db after) := by
  have succeeds := setApplicationIn_ok_iff names h fresh room
  cases ran : setApplicationIn source tenant application origins db with
  | ok after =>
    have accepted : ¬ db.RefusesUses application origins := succeeds.1 ⟨after, ran⟩
    have changed : (setApplication tenant application origins).changeIn source db = .ok after :=
      mapError_eq_ok_iff.2 ran
    have answered := (answer_ok h.intact changed).choose_spec
    refine ⟨⟨fun ⟨e, failed⟩ => ?_, fun refused => absurd refused accepted⟩, fun _ => ⟨after, answered, ?_⟩⟩
    · cases answered.symm.trans failed
    · exact setApplicationIn_replaces names h fresh room ran
  | error e =>
    have refused : db.RefusesUses application origins := by
      by_contra accepted
      obtain ⟨after, ok⟩ := succeeds.2 accepted
      cases ran.symm.trans ok
    have failed : (setApplication tenant application origins).changeIn source db = .error (adding tenant e) := by
      rw [changeIn, ran]
      rfl
    exact ⟨⟨fun _ => refused, fun _ => ⟨_, answer_error failed⟩⟩, fun accepted => absurd refused accepted⟩

/-- Of the application's rows one is kept at tenant level, and one that nobody else uses goes; a dangling row is not
    used again for its text. -/
theorem mixed_application_replaced :
    (∃ e, ((store .strokes).answer (.setApplication ⟨1⟩ ⟨1⟩ [⟨"http://b"⟩, ⟨"http://b"⟩])).run ⟨mixed, true⟩ =
      (.error e, ⟨mixed, true⟩)) ∧
    ∃ after, ((store .strokes).answer (.setApplication ⟨1⟩ ⟨1⟩ [⟨"http://b"⟩, ⟨"http://a"⟩, ⟨"http://d"⟩])).run
        ⟨mixed, true⟩ = (.ok (), ⟨after, true⟩) ∧
      after.originsOf ⟨1⟩ =
        [⟨⟨1⟩, ⟨1⟩, ⟨"http://a"⟩, ⟨""⟩, true⟩, ⟨⟨8⟩, ⟨1⟩, ⟨"http://b"⟩, ⟨"||||"⟩, false⟩,
          ⟨⟨9⟩, ⟨1⟩, ⟨"http://d"⟩, ⟨"|||||"⟩, false⟩] ∧
      (after.usedBy ⟨1⟩ ⟨1⟩).Perm [⟨"http://b"⟩, ⟨"http://a"⟩, ⟨"http://d"⟩] := by
  have names := Source.strokes_names
  have repeated : mixed.RefusesUses ⟨1⟩ [⟨"http://b"⟩, ⟨"http://b"⟩] := .inl (by decide)
  have accepted : ¬ mixed.RefusesUses ⟨1⟩ [⟨"http://b"⟩, ⟨"http://a"⟩, ⟨"http://d"⟩] := by
    rintro (again | ⟨_, none⟩)
    · exact again (by decide)
    · exact none _ List.mem_cons_self rfl
  obtain ⟨fails, _⟩ := setApplication_replaces names mixed_consistent mixed_freshNames ⟨1⟩ ⟨1⟩
    [⟨"http://b"⟩, ⟨"http://b"⟩] (by decide)
  obtain ⟨_, succeeds⟩ := setApplication_replaces names mixed_consistent mixed_freshNames ⟨1⟩ ⟨1⟩
    [⟨"http://b"⟩, ⟨"http://a"⟩, ⟨"http://d"⟩] (by decide)
  obtain ⟨after, ran, replaced⟩ := succeeds accepted
  exact ⟨fails.2 repeated, after, ran, replaced.rows, replaced.uses⟩

end OriginRequest

end OriginRegistry
