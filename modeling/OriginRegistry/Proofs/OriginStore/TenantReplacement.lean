import OriginRegistry.Proofs.OriginStore.NewRows
import OriginRegistry.Proofs.OriginStore.Requests

set_option autoImplicit false

namespace OriginRegistry

namespace Database

def usedRows (db : Database) (tenant : TenantId) : List OriginRow :=
  (db.originsOf tenant).filter fun o => db.isUsed o.id

def lacking (db : Database) (tenant : TenantId) (origins : List Origin) : List Origin :=
  unheld ((db.usedRows tenant).map OriginRow.origin) origins

/-- The rows of a tenant without their keys: text, level and applications of each. -/
def standing (db : Database) (tenant : TenantId) : List (Origin × Bool × List ApplicationId) :=
  (db.originsOf tenant).map fun o =>
    (o.origin, o.tenantLevel, (db.associations.filter fun a => a.origin = o.id).map Association.application)

structure TenantReplaced (source : Source) (tenant : TenantId) (origins : List Origin) (before after : Database) :
    Prop where
  rows : after.originsOf tenant =
    (before.usedRows tenant).map (fun o => { o with tenantLevel := origins.contains o.origin }) ++
      before.newRows source tenant true (before.lacking tenant origins)
  brandNew : before.BrandNew (before.newRows source tenant true (before.lacking tenant origins))
  lastOrigin : after.lastOrigin = before.lastOrigin + (before.lacking tenant origins).length
  associations : after.associations = before.associations
  others : ∀ other, other ≠ tenant → after.originsOf other = before.originsOf other
  originsOnly : OriginsOnly before after

def raise (db : Database) (tenant : TenantId) (origins : List Origin) : Database :=
  db.relevel fun o => o.tenantLevel || (o.tenant = tenant && origins.contains o.origin)

def promote (source : Source) (db : Database) (tenant : TenantId) (origins : List Origin) : Database :=
  (db.raise tenant origins).enterAll source tenant true (unheld (db.textsOf tenant) origins)

variable {source : Source} {db : Database} {tenant : TenantId} {origin : Origin} {origins : List Origin}

theorem relevel_congr {f g : OriginRow → Bool} (same : ∀ o ∈ db.origins, f o = g o) : db.relevel f = db.relevel g := by
  refine congrArg (fun rows => { db with origins := rows }) (List.map_congr_left fun o ho => ?_)
  rw [same o ho]

theorem raise_nil : db.raise tenant [] = db := by
  simp [raise, relevel]

theorem raise_cons : (db.raise tenant [origin]).raise tenant origins = db.raise tenant (origin :: origins) := by
  simp only [raise, relevel, List.map_map]
  refine congrArg (fun rows => { db with origins := rows }) (List.map_congr_left fun o _ => ?_)
  have level (old own first others : Bool) :
      (old || own && first || own && others) = (old || own && (first || others)) := by
    revert old own first others
    decide
  simp [level]

theorem promote_nil : db.promote source tenant [] = db := by
  rw [promote, raise_nil]
  exact enterAll_nil

theorem promote_held (held : origin ∈ db.textsOf tenant) :
    (db.raise tenant [origin]).promote source tenant origins = db.promote source tenant (origin :: origins) := by
  have texts : (db.raise tenant [origin]).textsOf tenant = db.textsOf tenant := textsOf_relevel _
  rw [promote, promote, raise_cons, texts, unheld_held held]

/-- The new row is at tenant level from the start, and the others do not have its text. -/
theorem raise_enter (new : origin ∉ db.textsOf tenant) :
    (db.enter source tenant origin true).raise tenant origins =
      (db.raise tenant (origin :: origins)).enter source tenant origin true := by
  have old : (db.raise tenant origins).origins = (db.raise tenant (origin :: origins)).origins := by
    refine List.map_congr_left fun o ho => ?_
    by_cases own : o.tenant = tenant
    · have other : o.origin ≠ origin := fun same => new (mem_textsOf.2 ⟨o, ho, own, same⟩)
      simp [other]
    · simp [own]
  have rows : ((db.enter source tenant origin true).raise tenant origins).origins =
      (db.raise tenant (origin :: origins)).origins ++ [db.nextRow source tenant origin true] := by
    rw [← old]
    simp [raise, relevel, enter, nextRow]
  exact congrArg
    (fun rows => { db with origins := rows, lastOrigin := db.lastOrigin + 1, drawn := db.drawn + 1 }) rows

theorem promote_new (new : origin ∉ db.textsOf tenant) :
    (db.enter source tenant origin true).promote source tenant origins =
      db.promote source tenant (origin :: origins) := by
  rw [promote, promote, raise_enter new, textsOf_enter, unheld_new new, enterAll_cons]

theorem originsOf_promote :
    (db.promote source tenant origins).originsOf tenant =
      (db.originsOf tenant).map (fun o => { o with tenantLevel := o.tenantLevel || origins.contains o.origin }) ++
        db.newRows source tenant true (unheld (db.textsOf tenant) origins) := by
  have raised : (db.raise tenant origins).originsOf tenant =
      (db.originsOf tenant).map fun o => { o with tenantLevel := o.tenantLevel || origins.contains o.origin } := by
    simp only [originsOf, raise, relevel, List.filter_map, Function.comp_def]
    refine List.map_congr_left fun o ho => ?_
    have own : o.tenant = tenant := of_decide_eq_true (List.mem_filter.1 ho).2
    simp [own]
  rw [promote, originsOf_enterAll, raised]
  rfl

theorem originsOf_cleared :
    ((db.lower fun o => o.tenant = tenant).sweep tenant).originsOf tenant =
      (db.usedRows tenant).map fun o => { o with tenantLevel := false } := by
  have used (id : OriginId) : (db.lower fun o => o.tenant = tenant).isUsed id = db.isUsed id := rfl
  simp only [usedRows, originsOf, sweep, isDangling, used]
  simp only [lower, relevel, List.filter_map, List.filter_filter, Function.comp_def]
  have left : db.origins.filter (fun o => decide (o.tenant = tenant) &&
      !(decide (o.tenant = tenant) && (!(o.tenantLevel && !decide (o.tenant = tenant)) && !db.isUsed o.id))) =
      db.origins.filter fun o => db.isUsed o.id && decide (o.tenant = tenant) := by
    refine List.filter_congr fun o _ => ?_
    by_cases own : o.tenant = tenant <;> simp [own]
  rw [left]
  refine List.map_congr_left fun o ho => ?_
  have own : o.tenant = tenant := of_decide_eq_true (Bool.and_eq_true_iff.1 (List.mem_filter.1 ho).2).2
  simp [own]

theorem textsOf_cleared : ((db.lower fun o => o.tenant = tenant).sweep tenant).textsOf tenant =
    (db.usedRows tenant).map OriginRow.origin := by
  simp [textsOf, originsOf_cleared]

end Database

namespace OriginStore.Tables

open Database

variable {source : Source} {db : Database} {tenant : TenantId} {origin : Origin} {origins : List Origin}

theorem keepAtTenantLevel_held (h : db.Consistent) (held : origin ∈ db.textsOf tenant) :
    keepAtTenantLevel source tenant db origin = .ok (db.raise tenant [origin]) := by
  unfold keepAtTenantLevel
  rcases originOf?_cases h.intact tenant origin with ⟨r, hr, own, text, found⟩ | ⟨new, _⟩
  · have same : db.relevel (fun o => o.tenantLevel || o.id = r.id) = db.raise tenant [origin] := by
      refine relevel_congr fun o ho => congrArg (o.tenantLevel || ·) ?_
      rw [Bool.eq_iff_iff]
      simp only [decide_eq_true_eq, Bool.and_eq_true, List.contains_iff_mem, List.mem_singleton]
      constructor
      · intro key
        rw [h.eq_of_id ho hr key]
        exact ⟨own, text⟩
      · rintro ⟨owned, held⟩
        exact congrArg OriginRow.id (h.eq_of_text ho hr (owned.trans own.symm) (held.trans text.symm))
    simp only [found, ok_bind, markTenantLevel_eq h.intact, same]
  · obtain ⟨o, ho, own, text⟩ := mem_textsOf.1 held
    exact absurd text (new o ho own)

theorem keepAtTenantLevel_new (h : db.Consistent) (can : db.Enterable source tenant origin) :
    keepAtTenantLevel source tenant db origin = .ok (db.enter source tenant origin true) := by
  unfold keepAtTenantLevel
  rcases originOf?_cases h.intact tenant origin with ⟨r, hr, own, text, _⟩ | ⟨_, found⟩
  · exact absurd text (can.newText r hr own)
  · simp only [found, ok_bind, (insertOrigin_eq_ok_iff h.intact).2 ⟨can, rfl, rfl⟩]
    rfl

theorem foldlM_keepAtTenantLevel_eq (names : Function.Injective source.name) (h : Roomy source db tenant origins) :
    origins.foldlM (keepAtTenantLevel source tenant) db = .ok (db.promote source tenant origins) := by
  induction origins generalizing db with
  | nil =>
    rw [promote_nil]
    rfl
  | cons origin origins ih =>
    rw [List.foldlM_cons]
    by_cases held : origin ∈ db.textsOf tenant
    · have left := h.held held
      have texts : (db.raise tenant [origin]).textsOf tenant = db.textsOf tenant := textsOf_relevel _
      have raised : Roomy source (db.raise tenant [origin]) tenant origins :=
        ⟨left.consistent.relevel _, left.fresh.relevel _, texts ▸ left.room⟩
      rw [keepAtTenantLevel_held h.consistent held, ok_bind, ih raised, promote_held held]
    · rw [keepAtTenantLevel_new h.consistent (h.enterable held), ok_bind, ih (h.enter names held true),
        promote_new held]

theorem cleared_roomy (h : db.Consistent) (fresh : db.FreshNames source)
    (room : db.lastOrigin + (db.lacking tenant origins).length ≤ largestKey) :
    Roomy source ((db.lower fun o => o.tenant = tenant).sweep tenant) tenant origins where
  consistent := (h.relevel _).sweep tenant
  fresh := (fresh.relevel _).sweep tenant
  room := by
    rw [textsOf_cleared]
    exact room

theorem setTenantIn_replaces (names : Function.Injective source.name) (h : db.Consistent) (fresh : db.FreshNames source)
    (room : db.lastOrigin + (db.lacking tenant origins).length ≤ largestKey) :
    ∃ after, setTenantIn source tenant origins db = .ok after ∧ TenantReplaced source tenant origins db after ∧
      after.Consistent ∧ after.FreshNames source := by
  have roomy := cleared_roomy h fresh room
  have ok : setTenantIn source tenant origins db = _ := setTenantIn_eq h.intact tenant origins
  rw [foldlM_keepAtTenantLevel_eq names roomy] at ok
  have edits := (setTenantIn_effect h ok).edits
  refine ⟨_, ok, ⟨?_, newRows_brandNew names h fresh room, ?_, rfl, fun other apart => ?_, ?_⟩, edits.consistent h,
    edits.freshNames names fresh⟩
  · rw [originsOf_promote, originsOf_cleared, List.map_map, textsOf_cleared]
    simp only [Function.comp_def, Bool.false_or]
    rfl
  · change db.lastOrigin + (unheld _ origins).length = _
    rw [textsOf_cleared]
    rfl
  · exact (edits.sameFor h apart).origins
  · exact edits.originsOnly

end OriginStore.Tables

namespace Database

variable {source : Source} {db after again : Database} {tenant : TenantId} {origins : List Origin}

theorem isUsed_congr (same : after.associations = db.associations) (id : OriginId) :
    after.isUsed id = db.isUsed id := by
  rw [isUsed, isUsed, same]

theorem TenantReplaced.usedRows_eq (replaced : TenantReplaced source tenant origins db after) :
    after.usedRows tenant = (db.usedRows tenant).map fun o => { o with tenantLevel := origins.contains o.origin } := by
  have used (o : OriginRow) (ho : o ∈ (db.usedRows tenant).map fun o =>
      { o with tenantLevel := origins.contains o.origin }) : db.isUsed o.id = true := by
    obtain ⟨r, hr, rfl⟩ := List.mem_map.1 ho
    exact (List.mem_filter.1 hr).2
  have unused (o : OriginRow) (ho : o ∈ db.newRows source tenant true (db.lacking tenant origins)) :
      ¬ db.isUsed o.id = true := by
    rw [replaced.brandNew.unused o ho]
    decide
  rw [usedRows, replaced.rows, List.filter_append]
  simp only [isUsed_congr replaced.associations]
  rw [List.filter_eq_self.2 used, List.filter_eq_nil_iff.2 unused, List.append_nil]

theorem TenantReplaced.lacking_eq (replaced : TenantReplaced source tenant origins db after) :
    after.lacking tenant origins = db.lacking tenant origins := by
  rw [lacking, replaced.usedRows_eq, List.map_map]
  rfl

theorem standing_congr (rows : after.originsOf tenant = db.originsOf tenant)
    (associations : after.associations = db.associations) : after.standing tenant = db.standing tenant := by
  rw [standing, standing, rows, associations]

theorem TenantReplaced.standing_eq (replaced : TenantReplaced source tenant origins db after) :
    after.standing tenant =
      (db.usedRows tenant).map (fun o => (o.origin, origins.contains o.origin,
        (db.associations.filter fun a => a.origin = o.id).map Association.application)) ++
        (db.lacking tenant origins).map fun origin => (origin, true, []) := by
  have new : (db.newRows source tenant true (db.lacking tenant origins)).map (fun o =>
      (o.origin, o.tenantLevel, (db.associations.filter fun a => a.origin = o.id).map Association.application)) =
      (db.lacking tenant origins).map fun origin => (origin, true, []) := by
    calc _ = (db.newRows source tenant true (db.lacking tenant origins)).map fun o => (o.origin, true, []) := by
          refine List.map_congr_left fun o ho => ?_
          have level : o.tenantLevel = true := (mem_newRows ho).2.1
          have unused : db.associations.filter (fun a => a.origin = o.id) = [] := by
            simpa [isUsed] using replaced.brandNew.unused o ho
          rw [level, unused, List.map_nil]
      _ = ((db.newRows source tenant true (db.lacking tenant origins)).map OriginRow.origin).map
            fun origin => (origin, true, []) := by
          rw [List.map_map]
          rfl
      _ = _ := by rw [newRows_origins]
  rw [standing, replaced.rows, replaced.associations, List.map_append, List.map_map, new]
  rfl

theorem TenantReplaced.standing_again (first : TenantReplaced source tenant origins db after)
    (second : TenantReplaced source tenant origins after again) (other : TenantId) :
    again.standing other = after.standing other := by
  by_cases own : other = tenant
  · rw [own, second.standing_eq, first.standing_eq, first.lacking_eq, first.usedRows_eq, first.associations,
      List.map_map]
    rfl
  · exact standing_congr (second.others other own) second.associations

end Database

namespace OriginRequest

open Database OriginStore.Tables

variable {source : Source} {db : Database}

theorem answer_setTenant {after : Database} {tenant : TenantId} {origins : List Origin} (h : db.Intact)
    (ok : setTenantIn source tenant origins db = .ok after) :
    ((store source).answer (.setTenant tenant origins)).run ⟨db, true⟩ = (.ok (), ⟨after, true⟩) := by
  have changed : (setTenant tenant origins).changeIn source db = .ok after := mapError_eq_ok_iff.2 ok
  exact (answer_ok h changed).choose_spec

/-- A tenant's origins are replaced whenever there are keys enough, and again with the same result. -/
theorem setTenant_replaces (names : Function.Injective source.name) (h : db.Consistent) (fresh : db.FreshNames source)
    (tenant : TenantId) (origins : List Origin)
    (room : db.lastOrigin + (db.lacking tenant origins).length ≤ largestKey) :
    ∃ after, ((store source).answer (.setTenant tenant origins)).run ⟨db, true⟩ = (.ok (), ⟨after, true⟩) ∧
      TenantReplaced source tenant origins db after ∧
      (after.lastOrigin + (after.lacking tenant origins).length ≤ largestKey →
        ∃ again, ((store source).answer (.setTenant tenant origins)).run ⟨after, true⟩ = (.ok (), ⟨again, true⟩) ∧
          again.associations = after.associations ∧ ∀ other, again.standing other = after.standing other) := by
  obtain ⟨after, ok, first, consistent, stillFresh⟩ := setTenantIn_replaces names h fresh room
  refine ⟨after, answer_setTenant h.intact ok, first, fun more => ?_⟩
  obtain ⟨again, okAgain, second, _⟩ := setTenantIn_replaces names consistent stillFresh more
  exact ⟨again, answer_setTenant consistent.intact okAgain, second.associations, first.standing_again second⟩

/-- An origin that is listed twice had a dangling row, and one that an application uses is not listed. -/
theorem mixed_replaced :
    ∃ after, ((store .strokes).answer (.setTenant ⟨1⟩ [⟨"http://b"⟩, ⟨"http://c"⟩, ⟨"http://b"⟩, ⟨"http://d"⟩])).run
        ⟨mixed, true⟩ = (.ok (), ⟨after, true⟩) ∧
      after.originsOf ⟨1⟩ =
        [⟨⟨1⟩, ⟨1⟩, ⟨"http://a"⟩, ⟨""⟩, false⟩, ⟨⟨3⟩, ⟨1⟩, ⟨"http://c"⟩, ⟨"||"⟩, true⟩,
          ⟨⟨8⟩, ⟨1⟩, ⟨"http://b"⟩, ⟨"||||"⟩, true⟩, ⟨⟨9⟩, ⟨1⟩, ⟨"http://d"⟩, ⟨"|||||"⟩, true⟩] ∧
      ∃ again, ((store .strokes).answer (.setTenant ⟨1⟩ [⟨"http://b"⟩, ⟨"http://c"⟩, ⟨"http://b"⟩, ⟨"http://d"⟩])).run
          ⟨after, true⟩ = (.ok (), ⟨again, true⟩) ∧ ∀ other, again.standing other = after.standing other := by
  have names := Source.strokes_names
  obtain ⟨after, ran, replaced, twice⟩ := setTenant_replaces names mixed_consistent mixed_freshNames ⟨1⟩
    [⟨"http://b"⟩, ⟨"http://c"⟩, ⟨"http://b"⟩, ⟨"http://d"⟩] (by decide)
  have more : after.lastOrigin + (after.lacking ⟨1⟩ [⟨"http://b"⟩, ⟨"http://c"⟩, ⟨"http://b"⟩, ⟨"http://d"⟩]).length ≤
      largestKey := by
    rw [replaced.lacking_eq, replaced.lastOrigin]
    decide
  obtain ⟨again, ranAgain, _, same⟩ := twice more
  exact ⟨after, ran, replaced.rows, again, ranAgain, same⟩

end OriginRequest

end OriginRegistry
