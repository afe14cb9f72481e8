import OriginRegistry.Proofs.Management.Verdicts
import OriginRegistry.Proofs.Registry.Runs

set_option autoImplicit false

namespace OriginRegistry

open Database

theorem Management.internalIds_absent (domain : String) {existing : List RegisteredOrigin} {id : String}
    {ids : List String} (listed : id ∈ ids) (gone : ∀ e ∈ existing, e.externalId.val ≠ id) :
    ∃ absent ∈ ids, internalIds domain existing ids = .error (.notPresent domain absent) ∧
      ∀ e ∈ existing, e.externalId.val ≠ absent := by
  induction ids with
  | nil => exact absurd listed List.not_mem_nil
  | cons first ids ih =>
    unfold internalIds
    cases hit : existing.find? fun e => e.externalId.val = first with
    | none =>
      refine ⟨first, List.mem_cons_self, rfl, fun e he same => ?_⟩
      exact List.find?_eq_none.1 hit e he (decide_eq_true same)
    | some o =>
      have other : id ≠ first := by
        rintro rfl
        exact gone o (List.mem_of_find?_eq_some hit) (by simpa using List.find?_some hit)
      obtain ⟨absent, member, failed, missing⟩ := ih (List.mem_of_ne_of_mem other listed)
      refine ⟨absent, List.mem_cons_of_mem first member, ?_, missing⟩
      simp only [failed]
      rfl

/-- Once its tenant and its scope are found, a deletion is refused for the first item that is not shown for them. -/
theorem OriginChange.misses {db : Database} (h : db.Consistent) {c : OriginChange} (deletes : c.kind = .delete)
    {id : String} (listed : id ∈ c.items) (gone : ∀ o ∈ db.origins, o.externalId.val ≠ id) :
    ∃ e, c.plan db = .error e ∧ ∀ tenant scope, db.findTenant c.domain = .ok tenant →
      db.findScope c.domain c.resourceId? = .ok scope →
        ∃ absent ∈ c.items, e = .notPresent c.domain absent ∧
          ∀ o ∈ db.origins, db.shownFor tenant scope o = true → o.externalId.val ≠ absent := by
  cases tenantFound : db.findTenant c.domain with
  | error e =>
    refine ⟨e, ?_, by rintro _ _ ⟨⟩⟩
    rw [plan, tenantFound]
    rfl
  | ok tenant =>
    cases scopeFound : db.findScope c.domain c.resourceId? with
    | error e =>
      refine ⟨e, ?_, by rintro _ _ _ ⟨⟩⟩
      rw [plan, tenantFound, ok_bind, scopeFound]
      rfl
    | ok scope =>
      have unlisted : ∀ e ∈ db.listing (db.shownFor tenant scope), e.externalId.val ≠ id := by
        intro e he
        obtain ⟨o, ho, _, rfl⟩ := h.mem_listing.1 he
        exact gone o ho
      obtain ⟨absent, member, failed, missing⟩ := Management.internalIds_absent c.domain listed unlisted
      refine ⟨.notPresent c.domain absent, ?_, ?_⟩
      · simp only [plan, tenantFound, scopeFound, ok_bind, deletes, failed]
        rfl
      · rintro _ _ ⟨⟩ ⟨⟩
        refine ⟨absent, member, rfl, fun o ho shown => ?_⟩
        exact missing (db.entry o) (h.mem_listing.2 ⟨o, ho, shown, rfl⟩)

def RegisteredOrigin.called (e : RegisteredOrigin) : OriginId × ExternalId × String := (e.id, e.externalId, e.origin)

theorem listing_called {db : Database} (h : db.Consistent) (tenant : TenantId) :
    (db.listing (db.shownFor tenant .tenantLevel)).map RegisteredOrigin.called =
      (db.identities.filter fun i => i.tenant = tenant).map fun i => (i.id, i.externalId, i.origin.text) := by
  rw [h.listing_eq, identities, List.filter_map, List.map_map, List.map_map]
  rfl

theorem listing_ascending {db : Database} (h : db.Consistent) (tenant : TenantId) :
    ((db.listing (db.shownFor tenant .tenantLevel)).map fun e => e.id.val.toInt).Pairwise (· < ·) := by
  rw [h.listing_eq, List.map_map]
  exact h.ascending.sublist (List.filter_sublist.map _)

theorem Database.Continues.listing {source : Source} {db after : Database} (step : Continues source db after)
    (h : db.Consistent) (hAfter : after.Consistent) (tenant : TenantId) :
    ∃ left newer, (after.listing (after.shownFor tenant .tenantLevel)).map RegisteredOrigin.called = left ++ newer ∧
      left.Sublist ((db.listing (db.shownFor tenant .tenantLevel)).map RegisteredOrigin.called) ∧
      ∀ name ∈ newer, ∀ o ∈ db.origins, o.id ≠ name.1 := by
  obtain ⟨kept, added, rows, sub, fresh⟩ := step.rows
  rw [listing_called h, listing_called hAfter, rows, List.filter_append, List.map_append]
  refine ⟨_, _, rfl, (sub.filter _).map _, ?_⟩
  intro name hname o ho same
  obtain ⟨i, hi, rfl⟩ := List.mem_map.1 hname
  have above := (fresh i (List.mem_of_mem_filter hi)).1
  have bounded := h.bounded o ho
  rw [same] at bounded
  exact absurd above (Int.not_lt.2 bounded)

/-- What three states of a run, one after the other, say of the names that were there in the first. -/
structure Permanent (source : Source) (p q r : Pool) : Prop where
  same : ∀ i ∈ p.database.identities, ∀ j ∈ r.database.identities, j.id = i.id ∨ j.externalId = i.externalId →
    j = i ∧ i ∈ q.database.identities
  undeletable : ∀ i ∈ p.database.identities, i ∉ q.database.identities → ∀ c : OriginChange, c.kind = .delete →
    i.externalId.val ∈ c.items → ∃ e, ((Management.onTables source).change c).run r = (.error e, r) ∧
      ∀ tenant scope, r.database.findTenant c.domain = .ok tenant →
        r.database.findScope c.domain c.resourceId? = .ok scope →
          ∃ absent ∈ c.items, e = .notPresent c.domain absent ∧
            ∀ o ∈ r.database.origins, r.database.shownFor tenant scope o = true → o.externalId.val ≠ absent
  unknown : ∀ i ∈ p.database.identities, i ∉ q.database.identities →
    ((Management.onTables source).originApplications i.externalId.val).run r =
      (.error (.storage i.externalId.val (.notFound "CORS origin" i.externalId.val)), r)
  listed : ∀ t ∈ p.database.tenants, Text.blank t.domain = false → ∃ old new left newer,
    ((Management.onTables source).tenantOrigins t.domain).run p = (.ok old, p) ∧
      ((Management.onTables source).tenantOrigins t.domain).run r = (.ok new, r) ∧
      (new.map fun e => e.id.val.toInt).Pairwise (· < ·) ∧
      new.map RegisteredOrigin.called = left ++ newer ∧ left.Sublist (old.map RegisteredOrigin.called) ∧
      ∀ name ∈ newer, ∀ o ∈ p.database.origins, o.id ≠ name.1

theorem Permanent.of_continues {source : Source} {p q r : Pool} (names : Function.Injective source.name)
    (hp : p.Orderly source) (hr : r.Orderly source) (first : Continues source p.database q.database)
    (second : Continues source q.database r.database) (tenants : ∀ t ∈ p.database.tenants, t ∈ r.database.tenants) :
    Permanent source p q r := by
  have whole := first.trans second
  have same : ∀ i ∈ p.database.identities, ∀ j ∈ r.database.identities,
      j.id = i.id ∨ j.externalId = i.externalId → j = i ∧ i ∈ q.database.identities := by
    intro i hi j hj called
    have here : j = i := whole.eq_of_called hp.consistent hp.named names hi hj called
    have bounded := hp.consistent.identity_bounded hi
    have grown := first.lastOrigin
    exact ⟨here, second.present (here ▸ hj) (by omega)⟩
  have gone : ∀ i ∈ p.database.identities, i ∉ q.database.identities →
      ∀ o ∈ r.database.origins, o.externalId ≠ i.externalId := by
    intro i hi away o ho called
    exact away (same i hi o.identity (mem_identities.2 ⟨o, ho, rfl⟩) (.inr called)).2
  refine ⟨same, ?_, ?_, ?_⟩
  · intro i hi away c deletes listed
    have missing : ∀ o ∈ r.database.origins, o.externalId.val ≠ i.externalId.val :=
      fun o ho named => gone i hi away o ho (congrArg ExternalId.mk named)
    obtain ⟨e, refused, absent⟩ := OriginChange.misses hr.consistent deletes listed missing
    refine ⟨e, ?_, absent⟩
    rw [hr.eq_open]
    exact Management.run_change_refused hr.consistent.intact refused
  · intro i hi away
    have none : (r.database.listing fun o => o.externalId = i.externalId) = [] := by
      rw [hr.consistent.listing_eq, List.map_eq_nil_iff, List.filter_eq_nil_iff]
      exact fun o ho named => gone i hi away o ho (of_decide_eq_true named)
    have asked := Management.answer_originApplications source hr.toHealthy i.externalId.val
    rw [none] at asked
    exact asked
  · intro t ht named
    obtain ⟨left, newer, rows, sub, fresh⟩ := whole.listing hp.consistent hr.consistent t.id
    exact ⟨_, _, left, newer, Management.run_tenantOrigins hp.toHealthy ht named,
      Management.run_tenantOrigins hr.toHealthy (tenants t ht) named, listing_ascending hr.consistent t.id, rows, sub,
      fresh⟩

namespace RegistryEvent

/-- Whatever happens before, in between and after, names stand for what they stood for. -/
theorem names_permanent (source : Source) (names : Function.Injective source.name)
    (before since later : List RegistryEvent) :
    Permanent source (after source before) (after source (before ++ since))
      (after source (before ++ since ++ later)) := by
  have start := after_orderly names before
  have middle := after_orderly names (before ++ since)
  have first := foldl_continues start names since
  have second := foldl_continues middle names later
  have tenants : ∀ t ∈ (after source before).database.tenants,
      t ∈ (after source (before ++ (since ++ later))).database.tenants := by
    intro t ht
    rw [after, List.foldl_append]
    exact foldl_tenants start names (since ++ later) ht
  unfold after at first second
  rw [← List.foldl_append] at first second
  rw [← List.append_assoc] at tenants
  exact .of_continues names start (after_orderly names _) first second tenants

def twoOrigins : List RegistryEvent :=
  [.register (.tenant "a.com"), .manage (.change ⟨.set, "a.com", none, ["http://bar.com", "http://foo.com"]⟩)]

def secondGivenUp : List RegistryEvent := [.manage (.change ⟨.set, "a.com", none, ["http://bar.com"]⟩)]

def secondAdded : List RegistryEvent := [.manage (.change ⟨.add, "a.com", none, ["http://foo.com"]⟩)]

/-- The origin is there again, but what it was called before is not. -/
theorem secondAdded_under_new_name :
    ((Management.onTables .strokes).change ⟨.delete, "a.com", none, ["|"]⟩).run
        (after .strokes (twoOrigins ++ secondGivenUp ++ secondAdded)) =
      (.error (.notPresent "a.com" "|"), after .strokes (twoOrigins ++ secondGivenUp ++ secondAdded)) := by
  have before : (after .strokes twoOrigins).database.identities =
      [⟨⟨1⟩, ⟨"http://bar.com"⟩, ⟨1⟩, ⟨""⟩⟩, ⟨⟨1⟩, ⟨"http://foo.com"⟩, ⟨2⟩, ⟨"|"⟩⟩] := by rfl
  have between : (after .strokes (twoOrigins ++ secondGivenUp)).database.identities =
      [⟨⟨1⟩, ⟨"http://bar.com"⟩, ⟨3⟩, ⟨"||"⟩⟩] := by rfl
  have permanent := names_permanent .strokes Source.strokes_names twoOrigins secondGivenUp secondAdded
  obtain ⟨e, ran, absent⟩ := permanent.undeletable ⟨⟨1⟩, ⟨"http://foo.com"⟩, ⟨2⟩, ⟨"|"⟩⟩ (by simp [before])
    (by rw [between]; decide) ⟨.delete, "a.com", none, ["|"]⟩ rfl (List.mem_singleton_self _)
  obtain ⟨first, listed, rfl, _⟩ := absent ⟨1⟩ .tenantLevel (by rfl) rfl
  rw [ran, List.mem_singleton.1 listed]

end RegistryEvent

end OriginRegistry
