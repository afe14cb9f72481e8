import OriginRegistry.Proofs.Management.Reads
import OriginRegistry.Proofs.OriginStore.KeyOrder
import OriginRegistry.Proofs.OriginStore.NewRows

set_option autoImplicit false

namespace OriginRegistry

/-- An entry shows a row and the applications that use it, in the order of their keys. -/
structure RegisteredOrigin.Shows (e : RegisteredOrigin) (db : Database) (o : OriginRow) : Prop where
  id : e.id = o.id
  externalId : e.externalId = o.externalId
  origin : e.origin = o.origin.text
  tenantLevel : e.tenantLevel = o.tenantLevel
  applications : ∀ a, a ∈ e.applications ↔
    (∃ r ∈ db.applications, r.application = a) ∧ ⟨o.id, a.id⟩ ∈ db.associations
  ascending : e.applications.Pairwise fun a b => a.id.val.toInt < b.id.val.toInt

/-- The order that queries for origins ask for: by origins, and for one origin by applications. -/
def JoinedRow.precedes (a b : JoinedRow) : Bool :=
  a.id.val < b.id.val || (a.id = b.id && a.application.all fun x => b.application.any fun y => x.id.val ≤ y.id.val)

namespace Database

variable {db : Database}

theorem joinOrigin_id {o : OriginRow} {row : JoinedRow} (member : row ∈ db.joinOrigin o) : row.id = o.id := by
  unfold joinOrigin at member
  split at member
  next => rw [List.mem_singleton.1 member]
  next =>
    obtain ⟨_, _, rfl⟩ := List.mem_map.1 member
    rfl

theorem Consistent.applicationsAt_keys (h : db.Consistent) (id : OriginId) :
    (db.applicationsAt id).map Application.id =
      (db.associations.filter fun a => a.origin = id).map Association.application := by
  have known : ∀ key ∈ (db.associations.filter fun a => a.origin = id).map Association.application,
      ∃ application, db.application? key = some application := by
    intro key hkey
    obtain ⟨a, ha, rfl⟩ := List.mem_map.1 hkey
    obtain ⟨r, hr, same⟩ := h.linkedApplication a (List.mem_of_mem_filter ha)
    exact ⟨r.application, h.application?_eq_some_iff.2 ⟨same, r, hr, rfl⟩⟩
  rw [applicationsAt]
  generalize (db.associations.filter fun a => a.origin = id).map Association.application = keys at known
  induction keys with
  | nil => rfl
  | cons key keys ih =>
    obtain ⟨application, found⟩ := known key List.mem_cons_self
    have named : application.id = key := (h.application?_eq_some_iff.1 found).1
    rw [List.filterMap_cons_some found, List.map_cons, ih fun k hk => known k (List.mem_cons_of_mem key hk), named]

theorem ascending_of_nodup {as : List Application} (once : (as.map Application.id).Nodup)
    (ordered : as.Pairwise fun a b => a.id.val.toInt ≤ b.id.val.toInt) :
    as.Pairwise fun a b => a.id.val.toInt < b.id.val.toInt := by
  refine (ordered.and (List.pairwise_map.1 once)).imp fun ⟨le, other⟩ => lt_of_le_of_ne le fun same => other ?_
  exact congrArg ApplicationId.mk (Int64.toInt_inj.1 same)

theorem Consistent.applicationsAt_ascending (h : db.Consistent) (ordered : db.KeyOrdered) (id : OriginId) :
    (db.applicationsAt id).Pairwise fun a b => a.id.val.toInt < b.id.val.toInt := by
  refine ascending_of_nodup ?_ ?_
  · have apart (a) (ha : a ∈ db.applicationsAt id) (b) (hb : b ∈ db.applicationsAt id) (same : a.id = b.id) : a = b := by
      obtain ⟨⟨r, hr, rfl⟩, _⟩ := h.mem_applicationsAt.1 ha
      obtain ⟨⟨s, hs, rfl⟩, _⟩ := h.mem_applicationsAt.1 hb
      rw [h.eq_of_applicationId hr hs same]
    exact (h.applicationsAt_nodup id).map_on apart
  · have inOrder : ((db.applicationsAt id).map Application.id).Pairwise fun a b => a.val.toInt ≤ b.val.toInt := by
      rw [h.applicationsAt_keys, List.pairwise_map]
      exact ordered.associations.sublist List.filter_sublist
    rwa [List.pairwise_map] at inOrder

theorem mem_applicationsOf {id : OriginId} {application : Application} :
    application ∈ db.applicationsOf id ↔
      (∃ r ∈ db.applications, r.application = application) ∧ ⟨id, application.id⟩ ∈ db.associations := by
  have linked : (db.associations.any fun x => x.origin = id && x.application = application.id) = true ↔
      ⟨id, application.id⟩ ∈ db.associations := by
    rw [List.any_eq_true]
    constructor
    · rintro ⟨⟨_, _⟩, hx, same⟩
      simp only [Bool.and_eq_true, decide_eq_true_eq] at same
      obtain ⟨rfl, rfl⟩ := same
      exact hx
    · exact fun hx => ⟨_, hx, by simp⟩
  rw [applicationsOf, List.mem_filter, List.mem_map, linked]

theorem Consistent.applicationsOf_eq (h : db.Consistent) (ordered : db.KeyOrdered) (id : OriginId) :
    db.applicationsOf id = db.applicationsAt id := by
  have registered : (db.applications.map ApplicationRow.application).Pairwise
      fun a b => a.id.val.toInt < b.id.val.toInt := by
    refine ascending_of_nodup ?_ (List.pairwise_map.2 ordered.applications)
    rw [List.map_map]
    exact h.applicationIds
  have queried : (db.applicationsOf id).Pairwise fun a b => a.id.val.toInt < b.id.val.toInt :=
    registered.sublist List.filter_sublist
  have once : (db.applicationsOf id).Nodup := queried.imp fun below same => by
    rw [same] at below
    exact absurd below (Int.lt_irrefl _)
  refine List.Perm.eq_of_pairwise (fun a b _ _ ab ba => absurd ab (Int.lt_asymm ba)) queried
    (h.applicationsAt_ascending ordered id) ?_
  refine (List.perm_ext_iff_of_nodup once (h.applicationsAt_nodup id)).2 fun application => ?_
  rw [mem_applicationsOf, h.mem_applicationsAt]

theorem Consistent.entry_shows (h : db.Consistent) (ordered : db.KeyOrdered) (o : OriginRow) :
    (db.entry o).Shows db o where
  id := rfl
  externalId := rfl
  origin := rfl
  tenantLevel := rfl
  applications := fun _ => h.mem_applicationsAt
  ascending := h.applicationsAt_ascending ordered o.id

theorem Consistent.entry_isAssociatedWith (h : db.Consistent) (o : OriginRow) (application : ApplicationId) :
    (db.entry o).isAssociatedWith application = db.associations.contains ⟨o.id, application⟩ := by
  rw [Bool.eq_iff_iff, List.contains_iff_mem]
  simp only [RegisteredOrigin.isAssociatedWith, entry, List.any_eq_true, decide_eq_true_eq, h.mem_applicationsAt]
  constructor
  · rintro ⟨a, ⟨_, linked⟩, rfl⟩
    exact linked
  · intro linked
    obtain ⟨r, hr, same⟩ := h.linkedApplication _ linked
    exact ⟨r.application, ⟨⟨r, hr, rfl⟩, same ▸ linked⟩, same⟩

/-- The queries for origins order their rows, and find them in this order. -/
theorem Consistent.joined_sorted (h : db.Consistent) (ordered : db.KeyOrdered) (p : OriginRow → Bool) :
    (db.joined p).mergeSort JoinedRow.precedes = db.joined p := by
  refine List.mergeSort_of_pairwise (List.pairwise_flatMap.2 ⟨fun o _ => ?_, ?_⟩)
  · rw [h.joinOrigin_eq o]
    have ascending := h.applicationsAt_ascending ordered o.id
    unfold RegisteredOrigin.rows
    split
    next => exact List.pairwise_singleton _ _
    next =>
      refine List.pairwise_map.2 (ascending.imp fun {a b} below => ?_)
      simp only [JoinedRow.precedes, Option.all_some, Option.any_some, decide_true, Bool.true_and, Bool.or_eq_true,
        decide_eq_true_eq]
      exact .inr (Int64.le_iff_toInt_le.2 (Int.le_of_lt below))
  · refine ((List.pairwise_map.1 h.ascending).sublist List.filter_sublist).imp fun {a b} below x hx y hy => ?_
    have first := joinOrigin_id hx
    have second := joinOrigin_id hy
    simp only [JoinedRow.precedes, first, second, Bool.or_eq_true, decide_eq_true_eq]
    exact .inl (Int64.lt_iff_toInt_lt.2 below)

theorem Consistent.applicationsOf_sorted (h : db.Consistent) (ordered : db.KeyOrdered) (id : OriginId) :
    (db.applicationsOf id).mergeSort (fun a b => a.id.val ≤ b.id.val) = db.applicationsOf id := by
  rw [h.applicationsOf_eq ordered]
  refine List.mergeSort_of_pairwise ((h.applicationsAt_ascending ordered id).imp fun below => ?_)
  exact decide_eq_true (Int64.le_iff_toInt_le.2 (Int.le_of_lt below))

theorem Consistent.listing_head? (h : db.Consistent) {p : OriginRow → Bool} {o : OriginRow} (ho : o ∈ db.origins)
    (here : p o = true) (only : ∀ r ∈ db.origins, p r = true → r = o) : (db.listing p).head? = some (db.entry o) := by
  have found : db.origins.find? p = some o :=
    (find?_eq_some_iff_of_unique fun a ha b hb hpa hpb => (only a ha hpa).trans (only b hb hpb).symm).2 ⟨ho, here⟩
  rw [h.listing_eq, List.head?_map, List.head?_filter, found]
  rfl

theorem Consistent.listing_head?_none (h : db.Consistent) {p : OriginRow → Bool}
    (absent : ∀ o ∈ db.origins, p o = false) : (db.listing p).head? = none := by
  have found : db.origins.find? p = none := List.find?_eq_none.2 fun o ho => by simp [absent o ho]
  rw [h.listing_eq, List.head?_map, List.head?_filter, found]
  rfl

end Database

def OriginRequest.Gives {α : Type} (source : Source) (db : Database) (request : OriginRequest α) (x : α) : Prop :=
  ((OriginStore.Tables.store source).answer request).run ⟨db, true⟩ = (.ok x, ⟨db, true⟩)

/-- How the ways to read the rows of a tenant go together. -/
structure Database.ReadAs (source : Source) (db : Database) (tenant : TenantId) (listing : List RegisteredOrigin) :
    Prop where
  byTenant : OriginRequest.Gives source db (.byTenant tenant) listing
  rows : List.Forall₂ (fun o e => e.Shows db o) (db.originsOf tenant) listing
  ascending : listing.Pairwise fun e f => e.id.val.toInt < f.id.val.toInt
  byApplication : ∀ application, OriginRequest.Gives source db (.byApplication tenant application)
    (listing.filter fun e => e.isAssociatedWith application)
  byKey : ∀ e ∈ listing, OriginRequest.Gives source db (.byId e.id) (some e)
  byName : ∀ e ∈ listing, OriginRequest.Gives source db (.byExternalId e.externalId) (some e)
  applications : ∀ e ∈ listing, OriginRequest.Gives source db (.applications e.id) e.applications
  managed : ∀ e ∈ listing, ((Management.onTables source).originApplications e.externalId.val).run ⟨db, true⟩ =
    (.ok e.applications, ⟨db, true⟩)

structure Database.ReadsNone (source : Source) (db : Database) : Prop where
  byKey : ∀ id, (∀ o ∈ db.origins, o.id ≠ id) → OriginRequest.Gives source db (.byId id) none
  byName : ∀ name, (∀ o ∈ db.origins, o.externalId ≠ name) → OriginRequest.Gives source db (.byExternalId name) none
  applications : ∀ id, (∀ o ∈ db.origins, o.id ≠ id) → OriginRequest.Gives source db (.applications id) []

namespace OriginRequest

variable {source : Source} {db : Database}

theorem gives_byId (h : db.Intact) (id : OriginId) :
    Gives source db (.byId id) (db.listing fun o => o.id = id).head? :=
  run_retrieve h (toString id) (fun _ o => o.id = id) List.head?

theorem gives_byExternalId (h : db.Intact) (id : ExternalId) :
    Gives source db (.byExternalId id) (db.listing fun o => o.externalId = id).head? :=
  run_retrieve h (toString id) (fun _ o => o.externalId = id) List.head?

end OriginRequest

namespace Database

variable {source : Source} {db : Database}

theorem Consistent.listing_readAs (h : db.Consistent) (ordered : db.KeyOrdered) (tenant : TenantId) :
    db.ReadAs source tenant (db.listing fun o => o.tenant = tenant) := by
  have entries : (db.listing fun o => o.tenant = tenant) = (db.originsOf tenant).map db.entry := h.listing_eq _
  have ofRow {e : RegisteredOrigin} (he : e ∈ db.listing fun o => o.tenant = tenant) :
      ∃ o ∈ db.origins, db.entry o = e := by
    obtain ⟨o, ho, _, same⟩ := h.mem_listing.1 he
    exact ⟨o, ho, same⟩
  have named {o : OriginRow} (ho : o ∈ db.origins) :
      (db.listing fun r => r.externalId = o.externalId).head? = some (db.entry o) :=
    h.listing_head? ho (decide_eq_true rfl) fun r hr same => h.eq_of_externalId hr ho (of_decide_eq_true same)
  constructor
  case byTenant => exact OriginRequest.run_byTenant h.intact tenant
  case rows =>
    rw [entries, List.forall₂_map_right_iff]
    exact List.forall₂_same.2 fun o _ => h.entry_shows ordered o
  case ascending =>
    rw [entries, List.pairwise_map]
    exact (List.pairwise_map.1 h.ascending).sublist List.filter_sublist
  case byApplication =>
    intro application
    have answered : OriginRequest.Gives source db (.byApplication tenant application) _ :=
      OriginRequest.run_byApplication h.intact tenant application
    rw [h.listing_eq] at answered
    rw [entries, List.filter_map, originsOf, List.filter_filter]
    simpa only [Function.comp_def, h.entry_isAssociatedWith, Bool.and_comm] using answered
  case byKey =>
    intro e he
    obtain ⟨o, ho, rfl⟩ := ofRow he
    have only : ∀ r ∈ db.origins, decide (r.id = o.id) = true → r = o :=
      fun r hr same => h.eq_of_id hr ho (of_decide_eq_true same)
    rw [← h.listing_head? ho (decide_eq_true rfl) only]
    exact OriginRequest.gives_byId h.intact o.id
  case byName =>
    intro e he
    obtain ⟨o, ho, rfl⟩ := ofRow he
    rw [← named ho]
    exact OriginRequest.gives_byExternalId h.intact o.externalId
  case applications =>
    intro e he
    obtain ⟨o, ho, rfl⟩ := ofRow he
    have answered : OriginRequest.Gives source db (.applications o.id) _ := OriginRequest.run_applications h.intact o.id
    rw [h.applicationsOf_eq ordered] at answered
    exact answered
  case managed =>
    intro e he
    obtain ⟨o, ho, rfl⟩ := ofRow he
    have healthy : Pool.Healthy ⟨db, true⟩ := ⟨rfl, h⟩
    refine (Management.answer_originApplications source healthy o.externalId.val).trans ?_
    rw [named ho]

theorem Consistent.readsNone (h : db.Consistent) : db.ReadsNone source where
  byKey := by
    intro id absent
    rw [← h.listing_head?_none fun o ho => decide_eq_false (absent o ho)]
    exact OriginRequest.gives_byId h.intact id
  byName := by
    intro name absent
    rw [← h.listing_head?_none fun o ho => decide_eq_false (absent o ho)]
    exact OriginRequest.gives_byExternalId h.intact name
  applications := by
    intro id absent
    have unused : db.applicationsOf id = [] := by
      refine List.eq_nil_iff_forall_not_mem.2 fun a ha => ?_
      obtain ⟨o, ho, same⟩ := h.linkedOrigin _ (mem_applicationsOf.1 ha).2
      exact absent o ho same
    rw [← unused]
    exact OriginRequest.run_applications h.intact id

/-- However a row is read, its entry is the one that the listing of its tenant has. -/
theorem rows_read_alike (source : Source) (h : db.Consistent) (ordered : db.KeyOrdered) :
    (∀ tenant, ∃ listing, db.ReadAs source tenant listing) ∧ db.ReadsNone source :=
  ⟨fun tenant => ⟨_, h.listing_readAs ordered tenant⟩, h.readsNone⟩

theorem mixed_keyOrdered : mixed.KeyOrdered where
  applications := by decide
  associations := by decide

def mixedListing : List RegisteredOrigin :=
  [⟨⟨1⟩, ⟨""⟩, "http://a", true, [⟨⟨1⟩, "app", "App"⟩, ⟨⟨2⟩, "sub", "Sub"⟩]⟩, ⟨⟨2⟩, ⟨"|"⟩, "http://b", false, []⟩,
    ⟨⟨3⟩, ⟨"||"⟩, "http://c", false, [⟨⟨1⟩, "app", "App"⟩]⟩]

theorem mixed_read_alike : mixed.ReadAs .strokes ⟨1⟩ mixedListing ∧ mixed.ReadsNone .strokes := by
  obtain ⟨listed, none⟩ := rows_read_alike .strokes mixed_consistent mixed_keyOrdered
  obtain ⟨listing, read⟩ := listed ⟨1⟩
  have ends : OriginRequest.Gives .strokes mixed (.byTenant ⟨1⟩) mixedListing := by rfl
  have same : listing = mixedListing := Except.ok.inj (congrArg Prod.fst (read.byTenant.symm.trans ends))
  exact ⟨same ▸ read, none⟩

end Database

end OriginRegistry
