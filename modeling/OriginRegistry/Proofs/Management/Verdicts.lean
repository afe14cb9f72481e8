import OriginRegistry.Proofs.Management.Runs
import OriginRegistry.Proofs.OriginStore.Success

set_option autoImplicit false

namespace OriginRegistry

namespace OriginChange

/-- The rows that a change is checked against: those of the tenant, or those that the application uses. -/
def held (db : Database) (c : OriginChange) : List OriginRow :=
  db.origins.filter fun o =>
    (db.tenants.any fun t => t.domain = c.domain && t.id = o.tenant) &&
      match c.resourceId? with
      | none => true
      | some resourceId => db.applications.any fun r =>
          r.application.resourceId = resourceId && db.associations.contains ⟨o.id, r.application.id⟩

def tenantObjection (db : Database) (c : OriginChange) : Option ManagementError :=
  if Text.blank c.domain ∨ ∀ t ∈ db.tenants, t.domain ≠ c.domain then some (.invalidTenantDomain c.domain) else none

def applicationObjection (db : Database) (c : OriginChange) : Option ManagementError :=
  match c.resourceId? with
  | none => none
  | some resourceId =>
    if Text.blank resourceId ∨ ¬ ∃ r ∈ db.applications, r.application.resourceId = resourceId ∧
        ∃ t ∈ db.tenants, t.id = r.tenant ∧ t.domain = c.domain then
      some (.invalidApplicationId resourceId)
    else none

def originObjection (c : OriginChange) : Option ManagementError :=
  if c.kind = .delete then none else (c.items.findSome? Origin.refusal?).map .invalidOrigin

def takenObjection (db : Database) (c : OriginChange) : Option ManagementError :=
  if c.kind = .add then
    c.items.findSome? fun text =>
      match Origin.parse text with
      | .ok origin =>
        if (c.held db).any fun o => o.origin = origin then some (.alreadyRegistered c.domain origin.text) else none
      | .error _ => none
  else none

def absentObjection (db : Database) (c : OriginChange) : Option ManagementError :=
  if c.kind = .delete then
    (c.items.find? fun id => (c.held db).all fun o => o.externalId.val ≠ id).map (.notPresent c.domain)
  else none

def objections (db : Database) (c : OriginChange) : List (Option ManagementError) :=
  [c.tenantObjection db, c.applicationObjection db, c.originObjection, c.takenObjection db, c.absentObjection db]

def verdict (db : Database) (c : OriginChange) : Option ManagementError := (c.objections db).findSome? id

open Database

variable {db : Database} {c : OriginChange} {tenant : TenantId} {scope : Scope}

theorem tenantObjection_eq (db : Database) (c : OriginChange) :
    c.tenantObjection db = errorOf? (db.findTenant c.domain) := by
  unfold tenantObjection findTenant
  cases Text.blank c.domain with
  | true => simp [errorOf?]
  | false =>
    cases found : db.tenantOf? c.domain with
    | none =>
      rw [if_pos (.inr (tenantOf?_eq_none_iff.1 found))]
      rfl
    | some id =>
      have known : ¬ ∀ t ∈ db.tenants, t.domain ≠ c.domain := by
        rw [← tenantOf?_eq_none_iff, found]
        exact nofun
      simp only [known, Bool.false_eq_true, or_self, ↓reduceIte, errorOf?]

theorem applicationObjection_eq (db : Database) (c : OriginChange) :
    c.applicationObjection db = errorOf? (db.findScope c.domain c.resourceId?) := by
  unfold applicationObjection findScope
  cases c.resourceId? with
  | none => rfl
  | some resourceId =>
    simp only [findApplication]
    cases Text.blank resourceId with
    | true => simp [errorOf?, Except.map]
    | false =>
      have known : (∃ r ∈ db.applications, r.application.resourceId = resourceId ∧
          ∃ t ∈ db.tenants, t.id = r.tenant ∧ t.domain = c.domain) ↔
            db.applicationOf? c.domain resourceId ≠ none := by
        simp [applicationOf?]
      cases found : db.applicationOf? c.domain resourceId with
      | none => simp [known, found, errorOf?, Except.map]
      | some application => simp [known, found, errorOf?, Except.map]

theorem originObjection_eq (adds : c.kind ≠ .delete) :
    c.originObjection = errorOf? (Management.readOrigins c.items) := by
  rw [originObjection, if_neg adds, Management.readOrigins]
  cases read : Origin.parseAll c.items with
  | ok origins =>
    have none : c.items.findSome? Origin.refusal? = none := by
      cases refused : c.items.findSome? Origin.refusal? with
      | none => rfl
      | some refusal =>
        rw [Origin.parseAll_eq_error_iff.2 refused] at read
        cases read
    rw [none]
    rfl
  | error refusal =>
    rw [Origin.parseAll_eq_error_iff.1 read]
    rfl

theorem held_eq (h : db.Consistent) (tenantFound : db.findTenant c.domain = .ok tenant)
    (scopeFound : db.findScope c.domain c.resourceId? = .ok scope) :
    c.held db = db.origins.filter (db.shownFor tenant scope) := by
  obtain ⟨t, ht, rfl, named⟩ := h.tenantOf?_eq_some_iff.1 (findTenant_eq_ok_iff.1 tenantFound).2
  have own : ∀ o : OriginRow, (db.tenants.any fun u => u.domain = c.domain && u.id = o.tenant) =
      decide (o.tenant = t.id) := by
    intro o
    rw [Bool.eq_iff_iff, List.any_eq_true, decide_eq_true_eq]
    simp only [Bool.and_eq_true, decide_eq_true_eq]
    constructor
    · rintro ⟨u, hu, same, id⟩
      rw [← id, h.eq_of_domain hu ht (same.trans named.symm)]
    · exact fun same => ⟨t, ht, named, same.symm⟩
  refine List.filter_congr fun o _ => ?_
  rw [own]
  rcases findScope_eq_ok scopeFound with ⟨asked, rfl⟩ | ⟨resourceId, application, asked, found, rfl⟩
  · rw [asked, shownFor, Bool.and_true]
  · obtain ⟨same, u, _, _, owned⟩ := h.applicationOf?_eq_some_iff.1 found
    rw [asked]
    refine congrArg (_ && ·) ?_
    rw [Bool.eq_iff_iff, List.any_eq_true, List.contains_iff_mem]
    simp only [Bool.and_eq_true, decide_eq_true_eq, List.contains_iff_mem]
    constructor
    · rintro ⟨r, hr, resource, linked⟩
      rw [h.eq_of_resourceId hr owned (resource.trans same.symm)] at linked
      exact linked
    · exact fun linked => ⟨_, owned, same, linked⟩

theorem findSome?_parse {β : Type} {texts : List String} {each : List Origin}
    (read : texts.map Origin.parse = each.map .ok) (p : Origin → Bool) (f : Origin → β) :
    (texts.findSome? fun text =>
      match Origin.parse text with
      | .ok origin => if p origin then some (f origin) else none
      | .error _ => none) = (each.find? p).map f := by
  induction texts generalizing each with
  | nil =>
    cases each with
    | nil => rfl
    | cons _ _ => cases read
  | cons text texts ih =>
    cases each with
    | nil => cases read
    | cons origin each =>
      obtain ⟨first, rest⟩ := List.cons.inj read
      rw [List.findSome?_cons, first, List.find?_cons]
      cases hit : p origin with
      | true => simp [hit]
      | false => simp [hit, ih rest]

theorem takenObjection_eq (h : db.Consistent) (tenantFound : db.findTenant c.domain = .ok tenant)
    (scopeFound : db.findScope c.domain c.resourceId? = .ok scope) {origins : List Origin}
    (read : Origin.parseAll c.items = .ok origins) (adds : c.kind = .add) :
    c.takenObjection db =
      errorOf? (Management.checkNew c.domain (db.listing (db.shownFor tenant scope)) origins) := by
  obtain ⟨each, reads, rfl⟩ := Origin.parseAll_eq_ok_iff.1 read
  have listed : ∀ origin : Origin, ((db.listing (db.shownFor tenant scope)).any fun e => e.origin = origin.text) =
      (c.held db).any fun o => o.origin = origin := by
    intro origin
    rw [h.listing_eq, held_eq h tenantFound scopeFound, List.any_map]
    refine congrArg (List.any _) (funext fun o => ?_)
    have text : o.origin.text = origin.text ↔ o.origin = origin := ⟨congrArg Origin.mk, congrArg Origin.text⟩
    exact decide_eq_decide.2 text
  rw [takenObjection, if_pos adds, findSome?_parse reads, Management.checkNew]
  simp only [listed, find?_distinct]
  cases each.find? fun origin => (c.held db).any fun o => o.origin = origin <;> rfl

theorem errorOf?_internalIds (domain : String) (existing : List RegisteredOrigin) (ids : List String) :
    errorOf? (Management.internalIds domain existing ids) =
      (ids.find? fun id => existing.all fun e => e.externalId.val ≠ id).map (.notPresent domain) := by
  induction ids with
  | nil => rfl
  | cons id ids ih =>
    rw [Management.internalIds, List.find?_cons]
    cases hit : existing.find? fun e => e.externalId.val = id with
    | none =>
      have absent : (existing.all fun e => e.externalId.val ≠ id) = true := by
        simpa using List.find?_eq_none.1 hit
      rw [absent]
      rfl
    | some e =>
      have present : (existing.all fun e => e.externalId.val ≠ id) = false := by
        have named := List.find?_some hit
        rw [List.all_eq_false]
        exact ⟨e, List.mem_of_find?_eq_some hit, by simpa using named⟩
      rw [present, ← ih]
      cases Management.internalIds domain existing ids <;> rfl

theorem absentObjection_eq (h : db.Consistent) (tenantFound : db.findTenant c.domain = .ok tenant)
    (scopeFound : db.findScope c.domain c.resourceId? = .ok scope) (deletes : c.kind = .delete) :
    c.absentObjection db =
      errorOf? (Management.internalIds c.domain (db.listing (db.shownFor tenant scope)) c.items) := by
  have listed : ∀ id : String, ((c.held db).all fun o => o.externalId.val ≠ id) =
      (db.listing (db.shownFor tenant scope)).all fun e => e.externalId.val ≠ id := by
    intro id
    rw [h.listing_eq, held_eq h tenantFound scopeFound, List.all_map]
    rfl
  rw [absentObjection, if_pos deletes, errorOf?_internalIds]
  simp only [listed]

theorem verdict_eq (h : db.Consistent) (c : OriginChange) : c.verdict db = errorOf? (c.plan db) := by
  have objections : c.verdict db = (c.tenantObjection db).or ((c.applicationObjection db).or (c.originObjection.or
      ((c.takenObjection db).or (c.absentObjection db)))) := by
    simp only [verdict, OriginChange.objections, List.findSome?_cons, List.findSome?_nil, id_eq]
    cases c.tenantObjection db <;> cases c.applicationObjection db <;> cases c.originObjection <;>
      cases c.takenObjection db <;> cases c.absentObjection db <;> rfl
  rw [objections, tenantObjection_eq, applicationObjection_eq, plan]
  cases tenantFound : db.findTenant c.domain with
  | error e => rfl
  | ok tenant =>
    cases scopeFound : db.findScope c.domain c.resourceId? with
    | error e => rfl
    | ok scope =>
      simp only [ok_bind, errorOf?, Option.none_or]
      cases kind : c.kind with
      | set =>
        have taken : c.takenObjection db = none := if_neg (by simp [kind])
        have absent : c.absentObjection db = none := if_neg (by simp [kind])
        rw [originObjection_eq (by simp [kind]), taken, absent]
        cases Management.readOrigins c.items <;> rfl
      | add =>
        have absent : c.absentObjection db = none := if_neg (by simp [kind])
        rw [originObjection_eq (by simp [kind]), absent]
        cases read : Management.readOrigins c.items with
        | error e => rfl
        | ok origins =>
          have origins := Management.readOrigins_eq_ok_iff.1 read
          rw [takenObjection_eq h tenantFound scopeFound origins kind]
          simp only [ok_bind]
          cases Management.checkNew c.domain (db.listing (db.shownFor tenant scope)) _ <;> rfl
      | delete =>
        have unread : c.originObjection = none := if_pos kind
        have taken : c.takenObjection db = none := if_neg (by simp [kind])
        rw [unread, taken, absentObjection_eq h tenantFound scopeFound kind]
        cases Management.internalIds c.domain (db.listing (db.shownFor tenant scope)) c.items <;> rfl

variable {source : Source} {request : OriginRequest Unit}

theorem read_length {texts : List String} {origins : List Origin} (read : Origin.parseAll texts = .ok origins) :
    origins.length ≤ texts.length := by
  obtain ⟨each, reads, rfl⟩ := Origin.parseAll_eq_ok_iff.1 read
  have same := congrArg List.length reads
  rw [List.length_map, List.length_map] at same
  rw [same]
  exact (distinct_sublist each).length_le

theorem scope_registered (h : db.Consistent) {domain : String} {resourceId? : Option String} {id : ApplicationId}
    (scopeFound : db.findScope domain resourceId? = .ok (.application id)) :
    ∃ r ∈ db.applications, r.application.id = id := by
  rcases findScope_eq_ok scopeFound with ⟨_, away⟩ | ⟨resourceId, application, _, found, same⟩
  · cases away
  · obtain ⟨_, t, _, _, owned⟩ := h.applicationOf?_eq_some_iff.1 found
    exact ⟨_, owned, (Scope.application.inj same).symm⟩

theorem new_of_checked (h : db.Consistent) {domain : String} {origins : List Origin}
    (checked : Management.checkNew domain (db.listing (db.shownFor tenant scope)) origins = .ok ()) :
    ∀ origin ∈ origins, ∀ o ∈ db.origins, db.shownFor tenant scope o = true → o.origin ≠ origin := by
  intro origin horigin o ho shown same
  unfold Management.checkNew at checked
  cases hit : origins.find? fun c => (db.listing (db.shownFor tenant scope)).any fun e => e.origin = c.text with
  | some _ =>
    rw [hit] at checked
    cases checked
  | none =>
    refine List.find?_eq_none.1 hit origin horigin (List.any_eq_true.2 ⟨db.entry o, ?_, ?_⟩)
    · exact h.mem_listing.2 ⟨o, ho, shown, rfl⟩
    · exact decide_eq_true (congrArg Origin.text same)

/-- What passed all checks, the store does. -/
theorem planned_succeeds (names : Function.Injective source.name) (h : db.Consistent) (named : db.Named source)
    (room : c.kind ≠ .delete → db.lastOrigin + c.items.length ≤ largestKey) (planned : c.plan db = .ok request) :
    ∃ after, request.changeIn source db = .ok after := by
  obtain ⟨tenant, scope, tenantFound, scopeFound, asks⟩ := plan_eq_ok planned
  obtain ⟨kind, domain, resourceId?, items⟩ := c
  have ready : ∀ {origins}, kind ≠ .delete → Origin.parseAll items = .ok origins →
      Ready source db origins.length := by
    intro origins adds read
    exact ⟨h, named, Nat.le_trans (Nat.add_le_add_left (read_length read) _) (room adds)⟩
  have accounted : ∀ {x : Except DatabaseError Database} {f : DatabaseError → StorageError},
      (∃ after, x = .ok after) → ∃ after, x.mapError f = .ok after :=
    fun ⟨after, ok⟩ => ⟨after, mapError_eq_ok_iff.2 ok⟩
  cases kind with
  | set =>
    obtain ⟨origins, read, rfl⟩ := asks
    cases scope with
    | tenantLevel => exact accounted (OriginStore.Tables.setTenantIn_ok names (ready nofun read) tenant)
    | application id =>
      exact accounted (OriginStore.Tables.setApplicationIn_ok names (ready nofun read) (Origin.parseAll_nodup read)
        (scope_registered h scopeFound))
  | add =>
    obtain ⟨origins, read, rfl, checked⟩ := asks
    have new := new_of_checked h checked
    cases scope with
    | tenantLevel =>
      refine accounted (OriginStore.Tables.addTenantIn_ok names (ready nofun read) (Origin.parseAll_nodup read) ?_)
      exact fun origin horigin o ho own => new origin horigin o ho (decide_eq_true own)
    | application id =>
      refine accounted (OriginStore.Tables.uses_ok names (ready nofun read) (Origin.parseAll_nodup read)
        (scope_registered h scopeFound) ?_)
      rintro origin horigin ⟨o, ho, own, same, linked⟩
      refine new origin horigin o ho (shownFor_iff.2 ⟨own, ?_⟩) same
      rintro _ ⟨⟩
      exact linked
  | delete =>
    obtain ⟨ids, _, rfl⟩ := asks
    cases scope with
    | tenantLevel => exact ⟨_, OriginStore.Tables.deleteTenantIn_eq h.intact tenant ids⟩
    | application id => exact ⟨_, OriginStore.Tables.deleteApplicationIn_eq h.intact tenant id ids⟩

/-- A change is answered by its plan, as long as there are keys. -/
theorem answer_eq (names : Function.Injective source.name) {p : Pool} (h : p.Healthy) (named : p.database.Named source)
    (room : c.kind ≠ .delete → p.database.lastOrigin + c.items.length ≤ largestKey) :
    (((Management.onTables source).change c).run p).1 = (c.plan p.database).map fun _ => () := by
  have intact := h.consistent.intact
  cases planned : c.plan p.database with
  | error e =>
    rw [h.eq_open, Management.run_change_refused intact planned]
    rfl
  | ok request =>
    obtain ⟨after, changed⟩ := planned_succeeds names h.consistent named room planned
    rw [h.eq_open, Management.run_change_planned intact planned, changed]
    rfl

theorem verdict_isClientError {e : ManagementError} (raised : c.verdict db = some e) : e.isClientError = true := by
  obtain ⟨x, member, rfl⟩ := List.exists_of_findSome?_eq_some raised
  simp only [objections, List.mem_cons, List.not_mem_nil, or_false] at member
  rcases member with same | same | same | same | same
  · unfold tenantObjection at same
    split at same <;> cases same
    rfl
  · unfold applicationObjection at same
    split at same
    · cases same
    · split at same <;> cases same
      rfl
  · unfold originObjection at same
    split at same
    · cases same
    · obtain ⟨refusal, _, rfl⟩ := Option.map_eq_some_iff.1 same.symm
      rfl
  · unfold takenObjection at same
    split at same
    · obtain ⟨text, _, found⟩ := List.exists_of_findSome?_eq_some same.symm
      split at found
      · split at found <;> cases found
        rfl
      · cases found
    · cases same
  · unfold absentObjection at same
    split at same
    · obtain ⟨id, _, rfl⟩ := Option.map_eq_some_iff.1 same.symm
      rfl
    · cases same

/-- After every run, a change is answered with the first objection to it, and succeeds where there is none. So the
    store never fails it. -/
theorem answered_by_verdict (source : Source) (names : Function.Injective source.name) (events : List ServiceEvent)
    (c : OriginChange)
    (room : c.kind ≠ .delete → (ServiceEvent.after source events).database.lastOrigin + c.items.length ≤ largestKey) :
    (((Management.onTables source).change c).run (ServiceEvent.after source events)).1 =
        (match c.verdict (ServiceEvent.after source events).database with
          | some e => .error e
          | none => .ok ()) ∧
      ∀ key e, (((Management.onTables source).change c).run (ServiceEvent.after source events)).1 ≠
        .error (.storage key e) := by
  have sound := ServiceEvent.after_sound source events
  have answered : (((Management.onTables source).change c).run (ServiceEvent.after source events)).1 =
      (match c.verdict (ServiceEvent.after source events).database with
        | some e => .error e
        | none => .ok ()) := by
    rw [verdict_eq sound.consistent, answer_eq names sound.toHealthy sound.named room]
    cases c.plan (ServiceEvent.after source events).database <;> rfl
  refine ⟨answered, fun key e failed => ?_⟩
  rw [answered] at failed
  cases raised : c.verdict (ServiceEvent.after source events).database with
  | none =>
    rw [raised] at failed
    cases failed
  | some first =>
    rw [raised] at failed
    have refused := verdict_isClientError raised
    rw [Except.error.inj failed] at refused
    cases refused

def usedRun : List ServiceEvent :=
  [.register (.tenant "a.com"), .register (.application ⟨1⟩ "app" "App"),
    .manage (.change ⟨.add, "a.com", some "app", ["http://foo.com"]⟩)]

/-- The tenant itself may not add it, under whatever spelling and at whatever place of the list. -/
theorem usedRun_taken :
    (((Management.onTables .strokes).change ⟨.add, "a.com", none, ["http://new.com", " HTTP://FOO.com:80/"]⟩).run
        (ServiceEvent.after .strokes usedRun)).1 = .error (.alreadyRegistered "a.com" "http://foo.com") := by
  have taken : verdict (ServiceEvent.after .strokes usedRun).database
      ⟨.add, "a.com", none, ["http://new.com", " HTTP://FOO.com:80/"]⟩ =
        some (.alreadyRegistered "a.com" "http://foo.com") := by rfl
  have last : (ServiceEvent.after .strokes usedRun).database.lastOrigin = 1 := by rfl
  have answered := (answered_by_verdict .strokes Source.strokes_names usedRun
    ⟨.add, "a.com", none, ["http://new.com", " HTTP://FOO.com:80/"]⟩ fun _ => by rw [last]; decide).1
  rw [answered, taken]

end OriginChange

end OriginRegistry
