import OriginRegistry.Proofs.Management.Listings
import OriginRegistry.Proofs.Management.Verdicts
import OriginRegistry.Proofs.OriginStore.ApplicationReplacement
import OriginRegistry.Proofs.OriginStore.Withdrawal

/-!
# Additions are undone by deletions

An addition enters a row for each text that the tenant has no row of, and lets the scope have all the rows of its texts,
none of which it had before. A deletion of these rows from the scope leaves those that were entered without use, so
that they go, and the others as they were. Only the keys and names that were drawn are not drawn again.
-/

set_option autoImplicit false

namespace OriginRegistry

namespace Database

variable {source : Source} {db after : Database} {tenant : TenantId} {origins : List Origin} {level : Bool}
  {added : List OriginRow}

theorem newRows_lowered :
    (db.newRows source tenant level origins).map (fun o => { o with tenantLevel := false }) =
      db.newRows source tenant false origins := by
  refine List.ext_getElem (by simp [newRows]) fun i _ _ => ?_
  simp only [newRows, List.getElem_map, List.getElem_mapIdx]

theorem origin_of_mem_newRows {o : OriginRow} (ho : o ∈ db.newRows source tenant level origins) :
    o.origin ∈ origins := by
  have member := List.mem_map_of_mem (f := OriginRow.origin) ho
  rwa [newRows_origins] at member

theorem OriginsConsistent.appended_unused (h : db.OriginsConsistent)
    (ids : ((db.origins ++ added).map OriginRow.id).Nodup) : ∀ o ∈ added, db.isUsed o.id = false := by
  intro o ho
  rw [List.map_append, List.nodup_append] at ids
  simp only [isUsed, List.any_eq_false, decide_eq_true_eq]
  intro a ha same
  obtain ⟨r, hr, linked⟩ := h.linkedOrigin a ha
  exact ids.2.2 _ (List.mem_map_of_mem hr) _ (List.mem_map_of_mem ho) (linked.trans same)

/-- A sweep takes the rows that were added to no use, and none of those that were of use before. -/
theorem sweep_appended (h : db.Consistent) (tidy : db.NoDangling) (rows : after.origins = db.origins ++ added)
    (ids : (after.origins.map OriginRow.id).Nodup) (associations : after.associations = db.associations)
    (useless : ∀ o ∈ added, o.tenant = tenant ∧ o.tenantLevel = false) :
    after.sweep tenant = { after with origins := db.origins } := by
  have dangles (o : OriginRow) : after.isDangling o = db.isDangling o := by
    simp only [isDangling, isUsed, associations]
  have kept : (db.origins.filter fun o => !(o.tenant = tenant && db.isDangling o)) = db.origins := by
    refine List.filter_eq_self.2 fun o ho => ?_
    rw [not_isDangling_iff.2 (tidy o ho), Bool.and_false]
    rfl
  have gone : (added.filter fun o => !(o.tenant = tenant && db.isDangling o)) = [] := by
    rw [rows] at ids
    refine List.filter_eq_nil_iff.2 fun o ho => ?_
    obtain ⟨own, level⟩ := useless o ho
    simp [own, isDangling, level, h.appended_unused ids o ho]
  simp only [sweep, rows, dangles, List.filter_append, kept, gone, List.append_nil]

end Database

namespace OriginStore.Tables

open Database

variable {source : Source} {db after : Database} {tenant : TenantId} {application : ApplicationId}
  {origins : List Origin} {ids : List OriginId}

theorem addTenantIn_rows (h : db.Consistent) (ok : addTenantIn source tenant origins db = .ok after) :
    after = db.enterAll source tenant true origins ∧ ∀ origin ∈ origins, origin ∉ db.textsOf tenant := by
  unfold addTenantIn at ok
  induction origins generalizing db with
  | nil =>
    obtain rfl := pure_eq_ok_iff.1 ok
    exact ⟨enterAll_nil.symm, nofun⟩
  | cons origin origins ih =>
    rw [List.foldlM_cons] at ok
    obtain ⟨mid, first, rest⟩ := bind_eq_ok_iff.1 ok
    obtain ⟨⟨id, entered⟩, inserted, same⟩ := bind_eq_ok_iff.1 first
    obtain ⟨can, _, rfl⟩ := (insertOrigin_eq_ok_iff h.intact).1 inserted
    obtain rfl := pure_eq_ok_iff.1 same
    obtain ⟨rows, new⟩ := ih (h.enter can true) rest
    refine ⟨rows.trans enterAll_cons.symm, fun x hx => ?_⟩
    rcases List.mem_cons.1 hx with rfl | hx
    · exact can.new
    · rw [textsOf_enter] at new
      exact fun held => new x hx (List.mem_append_left _ held)

theorem foldlM_use_others (h : db.Consistent) (ok : origins.foldlM (use source tenant application) db = .ok after)
    {other : Association → Bool}
    (listed : ∀ o ∈ after.origins, o.tenant = tenant → o.origin ∈ origins → other ⟨o.id, application⟩ = false) :
    after.associations.filter other = db.associations.filter other := by
  induction origins generalizing db with
  | nil =>
    obtain rfl := pure_eq_ok_iff.1 ok
    rfl
  | cons origin origins ih =>
    rw [List.foldlM_cons] at ok
    obtain ⟨mid, first, rest⟩ := bind_eq_ok_iff.1 ok
    have consistent := (use_own_effect h first).edits.consistent h
    obtain ⟨_, rows, _⟩ := foldlM_use_rows consistent rest
    -- rows are only appended, so that the row of this step is still there at the end
    have later (o : OriginRow) (ho : o ∈ mid.origins) : o ∈ after.origins := by
      rw [rows]
      exact List.mem_append_left _ ho
    rw [ih consistent rest fun o ho own text => listed o ho own (List.mem_cons_of_mem _ text)]
    rcases use_cases h.intact first with ⟨r, hr, own, rfl, _, rfl⟩ | ⟨_, _, rfl⟩
    · exact filter_placeAssociation (listed r (later r hr) own List.mem_cons_self) db.associations
    · have new := later _ (mem_enter.2 (.inr rfl))
      exact filter_placeAssociation (listed _ new rfl List.mem_cons_self) db.associations

theorem addTenantIn_undone (h : db.Consistent) (tidy : db.NoDangling)
    (ok : addTenantIn source tenant origins db = .ok after)
    (listed : ∀ o ∈ after.origins, o.id ∈ ids ↔ o.tenant = tenant ∧ o.origin ∈ origins) :
    after.withdraw tenant ids .tenantLevel = { db with lastOrigin := after.lastOrigin, drawn := after.drawn } := by
  have consistent := (addTenantIn_effect h ok).edits.consistent h
  obtain ⟨rfl, new⟩ := addTenantIn_rows h ok
  have old : db.origins.map (fun o => { o with
      tenantLevel := o.tenantLevel && !(decide (o.tenant = tenant) && ids.contains o.id) }) = db.origins := by
    refine (List.map_congr_left fun o ho => ?_).trans (List.map_id _)
    have stays : ¬ (o.tenant = tenant ∧ o.id ∈ ids) := by
      rintro ⟨own, hid⟩
      obtain ⟨_, text⟩ := (listed o (List.mem_append_left _ ho)).1 hid
      exact new o.origin text (mem_textsOf.2 ⟨o, ho, own, rfl⟩)
    have unlisted : (decide (o.tenant = tenant) && ids.contains o.id) = false := by simpa using stays
    rw [unlisted, Bool.not_false, Bool.and_true]
    rfl
  have entered : (db.newRows source tenant true origins).map (fun o => { o with
      tenantLevel := o.tenantLevel && !(decide (o.tenant = tenant) && ids.contains o.id) }) =
        db.newRows source tenant false origins := by
    refine .trans (List.map_congr_left fun o ho => ?_) newRows_lowered
    have own := (mem_newRows ho).1
    simp [own, (listed o (List.mem_append_right _ ho)).2 ⟨own, origin_of_mem_newRows ho⟩]
  have lowered : (db.enterAll source tenant true origins).lower (fun o => o.tenant = tenant && ids.contains o.id) =
      db.enterAll source tenant false origins := by
    simp only [lower, relevel, enterAll, List.map_append, old, entered]
  have ids : ((db.enterAll source tenant false origins).origins.map OriginRow.id).Nodup := by
    rw [← lowered]
    exact (consistent.relevel _).ids
  rw [withdraw, lowered, sweep_appended h tidy rfl ids rfl fun o ho => ⟨(mem_newRows ho).1, (mem_newRows ho).2.1⟩]
  rfl

theorem addApplicationIn_undone (h : db.Consistent) (tidy : db.NoDangling)
    (ok : addApplicationIn source tenant application origins db = .ok after)
    (listed : ∀ o ∈ after.origins, o.id ∈ ids ↔ o.tenant = tenant ∧ o.origin ∈ origins) :
    after.withdraw tenant ids (.application application) =
      { db with lastOrigin := after.lastOrigin, drawn := after.drawn } := by
  have consistent := (addApplicationIn_effect h ok).edits.consistent h
  obtain ⟨_, unused, _⟩ := foldlM_use_ok_only h ok
  obtain ⟨associations, rows, _⟩ := foldlM_use_rows h ok
  have appended : after.origins =
      db.origins ++ db.newRows source tenant false (unheld (db.textsOf tenant) origins) := by
    rw [rows]
    rfl
  have before : db.associations.filter (fun a => !(a.application = application && ids.contains a.origin)) =
      db.associations := by
    refine List.filter_eq_self.2 fun a ha => ?_
    obtain ⟨o, ho, linked⟩ := h.linkedOrigin a ha
    have stays : ¬ (a.application = application ∧ a.origin ∈ ids) := by
      rintro ⟨rfl, hid⟩
      have kept : o ∈ after.origins := appended ▸ List.mem_append_left _ ho
      obtain ⟨own, text⟩ := (listed o kept).1 (linked ▸ hid)
      refine unused o.origin text ⟨o, ho, own, rfl, ?_⟩
      rw [Carries, linked]
      exact ha
    simpa [imp_iff_not_or] using stays
  have unlinked : after.associations.filter (fun a => !(a.application = application && ids.contains a.origin)) =
      db.associations := by
    refine (foldlM_use_others h ok fun o ho own text => ?_).trans before
    simp [(listed o ho).2 ⟨own, text⟩]
  have swept : (after.unlink fun a => a.application = application && ids.contains a.origin).sweep tenant = _ :=
    sweep_appended h tidy appended consistent.ids unlinked fun o ho => ⟨(mem_newRows ho).1, (mem_newRows ho).2.1⟩
  rw [withdraw, swept, unlink, unlinked, rows]
  rfl

end OriginStore.Tables

namespace OriginChange

open Database

variable {source : Source} {db after : Database} {tenant : TenantId} {scope : Scope} {domain : String}
  {resourceId? : Option String} {origins : List Origin} {ids : List OriginId} {names : List String}

/-- The external ids of those rows that a change is checked against and that hold one of its texts. -/
def externalIds (db : Database) (c : OriginChange) : List String :=
  ((c.held db).filter fun o => o.origin ∈ Origin.normalised c.items).map fun o => o.externalId.val

theorem mem_externalIds {c : OriginChange} {name : String} :
    name ∈ c.externalIds db ↔ ∃ o ∈ c.held db, o.origin ∈ Origin.normalised c.items ∧ o.externalId.val = name := by
  simp only [externalIds, List.mem_map, List.mem_filter, decide_eq_true_eq, and_assoc]

theorem findTenant_after (only : OriginsOnly db after) (domain : String) :
    after.findTenant domain = db.findTenant domain := by
  simp only [findTenant, tenantOf?, only.tenants]

theorem findScope_after (only : OriginsOnly db after) (domain : String) (resourceId? : Option String) :
    after.findScope domain resourceId? = db.findScope domain resourceId? := by
  cases resourceId? with
  | none => rfl
  | some resourceId => simp only [findScope, findApplication, applicationOf?, only.tenants, only.applications]

theorem plan_deletion (h : db.Consistent) (tenantFound : db.findTenant domain = .ok tenant)
    (scopeFound : db.findScope domain resourceId? = .ok scope)
    (shown : ∀ name ∈ names, ∃ o ∈ db.origins, db.shownFor tenant scope o = true ∧ o.externalId.val = name) :
    ∃ ids, plan db ⟨.delete, domain, resourceId?, names⟩ = .ok (.deleteFor tenant scope ids) ∧
      ∀ o ∈ db.origins, o.id ∈ ids ↔ db.shownFor tenant scope o = true ∧ o.externalId.val ∈ names := by
  cases found : Management.internalIds domain (db.listing (db.shownFor tenant scope)) names with
  | error e =>
    have missing := errorOf?_internalIds domain (db.listing (db.shownFor tenant scope)) names
    have present : (names.find? fun name =>
        (db.listing (db.shownFor tenant scope)).all fun e => e.externalId.val ≠ name) = none := by
      refine List.find?_eq_none.2 fun name hname absent => ?_
      obtain ⟨o, ho, visible, same⟩ := shown name hname
      exact of_decide_eq_true (List.all_eq_true.1 absent _ (h.mem_listing.2 ⟨o, ho, visible, rfl⟩)) same
    rw [found, present] at missing
    cases missing
  | ok ids =>
    refine ⟨ids, ?_, fun o ho => mem_found h found ho⟩
    simp only [plan, tenantFound, scopeFound, found, ok_bind]
    rfl

/-- The store's part: the listed rows are taken from the scope that they were added to. -/
theorem addFor_undone (h : db.Consistent) (tidy : db.NoDangling)
    (ok : (OriginRequest.addFor tenant scope origins).changeIn source db = .ok after)
    (listed : ∀ o ∈ after.origins, o.id ∈ ids ↔ o.tenant = tenant ∧ o.origin ∈ origins) :
    (OriginRequest.deleteFor tenant scope ids).changeIn source after =
      .ok { db with lastOrigin := after.lastOrigin, drawn := after.drawn } := by
  have intact := (OriginRequest.changeIn_consistent h ok).intact
  cases scope with
  | tenantLevel =>
    rw [← OriginStore.Tables.addTenantIn_undone h tidy (mapError_eq_ok_iff.1 ok) listed]
    exact OriginStore.Tables.deleteTenantIn_eq intact tenant ids
  | application a =>
    rw [← OriginStore.Tables.addApplicationIn_undone h tidy (mapError_eq_ok_iff.1 ok) listed]
    exact OriginStore.Tables.deleteApplicationIn_eq intact tenant a ids

theorem addFor_effect (h : db.Consistent)
    (ok : (OriginRequest.addFor tenant scope origins).changeIn source db = .ok after) :
    Effect source ⟨tenant, scope, origins⟩ (OriginRequest.addFor tenant scope origins).withdraws origins db after :=
  OriginRequest.effect_of_changeIn OriginRequest.addFor_warrant h (by cases scope <;> exact id) ok

theorem added_shown (h : db.Consistent)
    (ok : (OriginRequest.addFor tenant scope origins).changeIn source db = .ok after) {o : OriginRow}
    (ho : o ∈ after.origins) (own : o.tenant = tenant) (text : o.origin ∈ origins) :
    after.shownFor tenant scope o = true := by
  have effect := addFor_effect h ok
  have allows : after.Allows tenant scope o.origin := (effect.allows tenant scope o.origin).2 (.inr ⟨rfl, rfl, text⟩)
  rw [← own, (effect.edits.consistent h).allows_row ho] at allows
  refine shownFor_iff.2 ⟨own, ?_⟩
  rintro a rfl
  exact allows

theorem added_listed (h : db.Consistent)
    (ok : (OriginRequest.addFor tenant scope origins).changeIn source db = .ok after)
    (named : ∀ name, name ∈ names ↔
      ∃ o ∈ after.origins, after.shownFor tenant scope o = true ∧ o.origin ∈ origins ∧ o.externalId.val = name)
    (keys : ∀ o ∈ after.origins, o.id ∈ ids ↔ after.shownFor tenant scope o = true ∧ o.externalId.val ∈ names)
    {o : OriginRow} (ho : o ∈ after.origins) : o.id ∈ ids ↔ o.tenant = tenant ∧ o.origin ∈ origins := by
  have consistent := (addFor_effect h ok).edits.consistent h
  rw [keys o ho, named]
  constructor
  · rintro ⟨shown, r, hr, _, text, same⟩
    obtain rfl := consistent.eq_of_externalId hr ho (congrArg ExternalId.mk same)
    exact ⟨(shownFor_iff.1 shown).1, text⟩
  · rintro ⟨own, text⟩
    have shown := added_shown h ok ho own text
    exact ⟨shown, o, ho, shown, text, rfl⟩

/-- After every run, an addition that succeeded is undone by deleting what the listing then shows of its texts. -/
theorem addition_undone (source : Source) (events : List ServiceEvent) (domain : String)
    (resourceId? : Option String) (texts : List String) {q : Pool}
    (added : ((Management.onTables source).change ⟨.add, domain, resourceId?, texts⟩).run
      (ServiceEvent.after source events) = (.ok (), q))
    {names : List String}
    (named : ∀ name, name ∈ names ↔ name ∈ externalIds q.database ⟨.add, domain, resourceId?, texts⟩) :
    ((Management.onTables source).change ⟨.delete, domain, resourceId?, names⟩).run q =
      (.ok (), ⟨{ (ServiceEvent.after source events).database with
        lastOrigin := q.database.lastOrigin, drawn := q.database.drawn }, true⟩) := by
  have sound := ServiceEvent.after_sound source events
  have h := sound.consistent
  rcases Management.change_cases sound.toHealthy ⟨.add, domain, resourceId?, texts⟩ with
    ⟨e, failed⟩ | ⟨request, after, planned, changed, ran⟩
  · cases failed.symm.trans added
  · obtain ⟨_, rfl⟩ := Prod.mk.inj (added.symm.trans ran)
    obtain ⟨tenant, scope, tenantFound, scopeFound, origins, read, rfl, _⟩ := plan_eq_ok planned
    have effect := addFor_effect h changed
    have consistent := effect.edits.consistent h
    have only := effect.edits.originsOnly
    rw [← findTenant_after only] at tenantFound
    rw [← findScope_after only] at scopeFound
    have rows (o : OriginRow) : o ∈ held after ⟨.add, domain, resourceId?, texts⟩ ↔
        o ∈ after.origins ∧ after.shownFor tenant scope o = true := by
      rw [held_eq consistent tenantFound scopeFound, List.mem_filter]
    have listed (name : String) : name ∈ names ↔
        ∃ o ∈ after.origins, after.shownFor tenant scope o = true ∧ o.origin ∈ origins ∧ o.externalId.val = name := by
      simp only [named, mem_externalIds, rows, Origin.mem_normalised_of_parseAll read, and_assoc]
    have shown (name : String) (hname : name ∈ names) :
        ∃ o ∈ after.origins, after.shownFor tenant scope o = true ∧ o.externalId.val = name := by
      obtain ⟨o, ho, shown, _, same⟩ := (listed name).1 hname
      exact ⟨o, ho, shown, same⟩
    obtain ⟨ids, deletion, keys⟩ := plan_deletion consistent tenantFound scopeFound shown
    rw [Management.run_change_planned consistent.intact deletion,
      addFor_undone h sound.tidy changed fun o ho => added_listed h changed listed keys ho]

def neighbourRun : List ServiceEvent :=
  [.register (.tenant "a.com"), .register (.application ⟨1⟩ "app" "App"), .register (.application ⟨1⟩ "sub" "Sub"),
    .manage (.change ⟨.add, "a.com", none, ["http://foo.com"]⟩),
    .manage (.change ⟨.add, "a.com", some "sub", ["http://bar.com"]⟩)]

def neighbourAddition : OriginChange :=
  ⟨.add, "a.com", some "app", ["http://bar.com", " HTTP://FOO.com:80/", "http://new.com", "http://bar.com/"]⟩

/-- Both are added to the application together with a new one, and all are taken from it again. -/
theorem neighbourRun_undone :
    ∃ q, ((Management.onTables .strokes).change neighbourAddition).run (ServiceEvent.after .strokes neighbourRun) =
        (.ok (), q) ∧
      ((Management.onTables .strokes).change ⟨.delete, "a.com", some "app", ["||", "", "|", ""]⟩).run q =
        (.ok (), ⟨{ (ServiceEvent.after .strokes neighbourRun).database with
          lastOrigin := q.database.lastOrigin, drawn := q.database.drawn }, true⟩) := by
  have answered : (((Management.onTables .strokes).change neighbourAddition).run
      (ServiceEvent.after .strokes neighbourRun)).1 = .ok () := by rfl
  have ids : neighbourAddition.externalIds (((Management.onTables .strokes).change neighbourAddition).run
      (ServiceEvent.after .strokes neighbourRun)).2.database = ["", "|", "||"] := by rfl
  cases ran : ((Management.onTables .strokes).change neighbourAddition).run
      (ServiceEvent.after .strokes neighbourRun) with
  | mk answer q =>
    rw [ran] at answered ids
    obtain rfl : answer = .ok () := answered
    refine ⟨q, rfl, addition_undone .strokes neighbourRun "a.com" (some "app") neighbourAddition.items ran ?_⟩
    intro name
    change _ ↔ name ∈ neighbourAddition.externalIds q.database
    rw [ids]
    simp only [List.mem_cons, List.not_mem_nil, or_false]
    tauto

end OriginChange

end OriginRegistry
