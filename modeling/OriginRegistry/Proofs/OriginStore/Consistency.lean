import OriginRegistry.Proofs.OriginStore.Statements

set_option autoImplicit false

namespace OriginRegistry.Database

/-- The rows of the directory have keys of their own, and each application has a tenant. -/
structure DirectoryConsistent (db : Database) : Prop where
  tenantIds : (db.tenants.map TenantRow.id).Nodup
  domains : (db.tenants.map TenantRow.domain).Nodup
  applicationIds : (db.applications.map fun r => r.application.id).Nodup
  resourceIds : (db.applications.map fun r => r.application.resourceId).Nodup
  names : (db.applications.map fun r => (r.tenant, r.application.name)).Nodup
  owners : ∀ r ∈ db.applications, ∃ t ∈ db.tenants, t.id = r.tenant

/-- Origins have keys of their own, in the order in which they came, and both ends of an association exist. -/
structure OriginsConsistent (db : Database) : Prop where
  ascending : (db.origins.map fun o => o.id.val.toInt).Pairwise (· < ·)
  bounded : ∀ o ∈ db.origins, o.id.val.toInt ≤ db.lastOrigin
  texts : (db.origins.map fun o => (o.tenant, o.origin)).Nodup
  externalIds : (db.origins.map OriginRow.externalId).Nodup
  pairs : db.associations.Nodup
  linkedOrigin : ∀ a ∈ db.associations, ∃ o ∈ db.origins, o.id = a.origin
  linkedApplication : ∀ a ∈ db.associations, ∃ r ∈ db.applications, r.application.id = a.application

structure Consistent (db : Database) : Prop extends DirectoryConsistent db, OriginsConsistent db where
  intact : db.Intact

theorem empty_consistent : empty.Consistent where
  tenantIds := List.nodup_nil
  domains := List.nodup_nil
  applicationIds := List.nodup_nil
  resourceIds := List.nodup_nil
  names := List.nodup_nil
  owners := by simp [empty]
  ascending := List.Pairwise.nil
  bounded := by simp [empty]
  texts := List.nodup_nil
  externalIds := List.nodup_nil
  pairs := List.nodup_nil
  linkedOrigin := by simp [empty]
  linkedApplication := by simp [empty]
  intact := rfl

theorem DirectoryConsistent.congr {db after : Database} (h : db.DirectoryConsistent)
    (tenants : after.tenants = db.tenants) (applications : after.applications = db.applications) :
    after.DirectoryConsistent := by
  constructor
  all_goals simp only [tenants, applications]
  exacts [h.tenantIds, h.domains, h.applicationIds, h.resourceIds, h.names, h.owners]

theorem OriginsConsistent.congr {db after : Database} (h : db.OriginsConsistent)
    (origins : after.origins = db.origins) (lastOrigin : after.lastOrigin = db.lastOrigin)
    (associations : after.associations = db.associations)
    (applications : ∀ r ∈ db.applications, r ∈ after.applications) : after.OriginsConsistent := by
  constructor
  all_goals simp only [origins, lastOrigin, associations]
  · exact h.ascending
  · exact h.bounded
  · exact h.texts
  · exact h.externalIds
  · exact h.pairs
  · exact h.linkedOrigin
  · intro a ha
    obtain ⟨r, hr, hra⟩ := h.linkedApplication a ha
    exact ⟨r, applications r hr, hra⟩

section Keys

variable {db : Database}

theorem OriginsConsistent.ids (h : db.OriginsConsistent) : (db.origins.map OriginRow.id).Nodup := by
  have distinct : (db.origins.map fun o => o.id.val.toInt).Nodup := h.ascending.imp fun hlt => Int.ne_of_lt hlt
  have factor : (db.origins.map fun o => o.id.val.toInt) =
      (db.origins.map OriginRow.id).map fun id => id.val.toInt := by
    rw [List.map_map]
    rfl
  rw [factor] at distinct
  exact distinct.of_map _

theorem OriginsConsistent.eq_of_id (h : db.OriginsConsistent) {r s : OriginRow} (hr : r ∈ db.origins)
    (hs : s ∈ db.origins) (same : r.id = s.id) : r = s :=
  List.inj_on_of_nodup_map h.ids hr hs same

theorem OriginsConsistent.eq_of_text (h : db.OriginsConsistent) {r s : OriginRow} (hr : r ∈ db.origins)
    (hs : s ∈ db.origins) (tenant : r.tenant = s.tenant) (origin : r.origin = s.origin) : r = s :=
  List.inj_on_of_nodup_map h.texts hr hs (Prod.ext tenant origin)

theorem OriginsConsistent.eq_of_externalId (h : db.OriginsConsistent) {r s : OriginRow} (hr : r ∈ db.origins)
    (hs : s ∈ db.origins) (same : r.externalId = s.externalId) : r = s :=
  List.inj_on_of_nodup_map h.externalIds hr hs same

theorem DirectoryConsistent.eq_of_domain (h : db.DirectoryConsistent) {t u : TenantRow} (ht : t ∈ db.tenants)
    (hu : u ∈ db.tenants) (same : t.domain = u.domain) : t = u :=
  List.inj_on_of_nodup_map h.domains ht hu same

theorem DirectoryConsistent.eq_of_applicationId (h : db.DirectoryConsistent) {r s : ApplicationRow}
    (hr : r ∈ db.applications) (hs : s ∈ db.applications) (same : r.application.id = s.application.id) : r = s :=
  List.inj_on_of_nodup_map h.applicationIds hr hs same

theorem DirectoryConsistent.eq_of_resourceId (h : db.DirectoryConsistent) {r s : ApplicationRow}
    (hr : r ∈ db.applications) (hs : s ∈ db.applications)
    (same : r.application.resourceId = s.application.resourceId) : r = s :=
  List.inj_on_of_nodup_map h.resourceIds hr hs same

end Keys

section NewRows

variable {db : Database} {source : Source} {tenant : TenantId} {origin : Origin} {level : Bool}

theorem nextRow_key (room : db.lastOrigin < largestKey) :
    (db.nextRow source tenant origin level).id.val.toInt = db.lastOrigin + 1 := by
  unfold largestKey at room
  exact Int64.toInt_ofNat_of_lt (by omega)

theorem OriginsConsistent.unlinked_of_above (h : db.OriginsConsistent) {id : OriginId}
    (above : (db.lastOrigin : Int) < id.val.toInt) : ∀ a ∈ db.associations, a.origin ≠ id := by
  intro a ha same
  obtain ⟨o, ho, linked⟩ := h.linkedOrigin a ha
  have low := h.bounded o ho
  rw [linked, same] at low
  omega

theorem OriginsConsistent.nextRow_unlinked (h : db.OriginsConsistent) (room : db.lastOrigin < largestKey)
    (application : ApplicationId) :
    ⟨(db.nextRow source tenant origin level).id, application⟩ ∉ db.associations := by
  have above : (db.lastOrigin : Int) < (db.nextRow source tenant origin level).id.val.toInt := by
    rw [nextRow_key room]
    omega
  exact fun ha => h.unlinked_of_above above _ ha rfl

theorem placeAssociation_perm (a : Association) (l : List Association) : (placeAssociation a l).Perm (a :: l) := by
  induction l with
  | nil => exact List.Perm.refl _
  | cons b rest ih =>
    unfold placeAssociation
    split
    · exact List.Perm.refl _
    · exact (ih.cons b).trans (List.Perm.swap a b rest)

theorem mem_placeAssociation {a x : Association} {l : List Association} :
    x ∈ placeAssociation a l ↔ x = a ∨ x ∈ l := by
  rw [(placeAssociation_perm a l).mem_iff, List.mem_cons]

end NewRows

section Changes

variable {db : Database}

@[simp] theorem relevel_map {β : Type} (level : OriginRow → Bool) (f : OriginRow → β)
    (h : ∀ o : OriginRow, ∀ l, f { o with tenantLevel := l } = f o) :
    (db.relevel level).origins.map f = db.origins.map f := by
  simp [relevel, Function.comp_def, h]

theorem mem_relevel {level : OriginRow → Bool} {r : OriginRow} :
    r ∈ (db.relevel level).origins ↔ ∃ o ∈ db.origins, { o with tenantLevel := level o } = r :=
  List.mem_map

theorem Consistent.relevel (h : db.Consistent) (level : OriginRow → Bool) : (db.relevel level).Consistent where
  toDirectoryConsistent := h.toDirectoryConsistent.congr rfl rfl
  ascending := by
    rw [relevel_map level _ fun _ _ => rfl]
    exact h.ascending
  bounded := by
    intro r hr
    obtain ⟨o, ho, rfl⟩ := mem_relevel.1 hr
    exact h.bounded o ho
  texts := by
    rw [relevel_map level _ fun _ _ => rfl]
    exact h.texts
  externalIds := by
    rw [relevel_map level _ fun _ _ => rfl]
    exact h.externalIds
  pairs := h.pairs
  linkedOrigin := by
    intro a ha
    obtain ⟨o, ho, same⟩ := h.linkedOrigin a ha
    exact ⟨_, mem_relevel.2 ⟨o, ho, rfl⟩, same⟩
  linkedApplication := h.linkedApplication
  intact := h.intact

theorem Consistent.unlink (h : db.Consistent) (drop : Association → Bool) : (db.unlink drop).Consistent where
  toDirectoryConsistent := h.toDirectoryConsistent.congr rfl rfl
  ascending := h.ascending
  bounded := h.bounded
  texts := h.texts
  externalIds := h.externalIds
  pairs := h.pairs.filter _
  linkedOrigin := fun a ha => h.linkedOrigin a (List.mem_of_mem_filter ha)
  linkedApplication := fun a ha => h.linkedApplication a (List.mem_of_mem_filter ha)
  intact := h.intact

theorem isDangling_iff {o : OriginRow} :
    db.isDangling o = true ↔ o.tenantLevel = false ∧ ∀ a ∈ db.associations, a.origin ≠ o.id := by
  simp [isDangling, isUsed]

theorem mem_sweep {tenant : TenantId} {o : OriginRow} :
    o ∈ (db.sweep tenant).origins ↔ o ∈ db.origins ∧ ¬ (o.tenant = tenant ∧ db.isDangling o = true) := by
  simp [sweep, imp_iff_not_or]

theorem Consistent.sweep (h : db.Consistent) (tenant : TenantId) : (db.sweep tenant).Consistent where
  toDirectoryConsistent := h.toDirectoryConsistent.congr rfl rfl
  ascending := h.ascending.sublist (List.filter_sublist.map _)
  bounded := fun o ho => h.bounded o (List.mem_of_mem_filter ho)
  texts := h.texts.sublist (List.filter_sublist.map _)
  externalIds := h.externalIds.sublist (List.filter_sublist.map _)
  pairs := h.pairs
  linkedOrigin := by
    intro a ha
    obtain ⟨o, ho, same⟩ := h.linkedOrigin a ha
    refine ⟨o, mem_sweep.2 ⟨ho, ?_⟩, same⟩
    rintro ⟨_, dangling⟩
    exact (isDangling_iff.1 dangling).2 a ha same.symm
  linkedApplication := h.linkedApplication
  intact := h.intact

variable {source : Source} {tenant : TenantId} {origin : Origin}

theorem mem_enter {level : Bool} {o : OriginRow} :
    o ∈ (db.enter source tenant origin level).origins ↔
      o ∈ db.origins ∨ o = db.nextRow source tenant origin level := by
  simp [enter]

theorem Consistent.enter (h : db.Consistent) (can : db.Enterable source tenant origin) (level : Bool) :
    (db.enter source tenant origin level).Consistent where
  toDirectoryConsistent := h.toDirectoryConsistent.congr rfl rfl
  ascending := by
    simp only [Database.enter, List.map_append, List.map_cons, List.map_nil]
    refine List.pairwise_append.2 ⟨h.ascending, List.pairwise_singleton _ _, ?_⟩
    simp only [List.mem_map, List.mem_singleton, forall_exists_index, and_imp, forall_apply_eq_imp_iff₂, forall_eq]
    intro o ho
    have low := h.bounded o ho
    rw [nextRow_key can.room]
    omega
  bounded := by
    intro o ho
    change o.id.val.toInt ≤ ((db.lastOrigin + 1 : Nat) : Int)
    rcases mem_enter.1 ho with ho | rfl
    · have low := h.bounded o ho
      omega
    · rw [nextRow_key can.room]
      omega
  texts := by
    simp only [Database.enter, List.map_append, List.map_cons, List.map_nil]
    refine List.nodup_append.2 ⟨h.texts, List.nodup_singleton _, ?_⟩
    simp only [List.mem_map, List.mem_singleton, forall_exists_index, and_imp, forall_apply_eq_imp_iff₂, forall_eq]
    intro o ho same
    obtain ⟨ht, hx⟩ := Prod.mk.inj same
    exact can.newText o ho ht hx
  externalIds := by
    simp only [Database.enter, List.map_append, List.map_cons, List.map_nil]
    refine List.nodup_append.2 ⟨h.externalIds, List.nodup_singleton _, ?_⟩
    simp only [List.mem_map, List.mem_singleton, forall_exists_index, and_imp, forall_apply_eq_imp_iff₂, forall_eq]
    exact can.newName
  pairs := h.pairs
  linkedOrigin := by
    intro a ha
    obtain ⟨o, ho, same⟩ := h.linkedOrigin a ha
    exact ⟨o, mem_enter.2 (.inl ho), same⟩
  linkedApplication := h.linkedApplication
  intact := h.intact

theorem mem_link {a x : Association} : x ∈ (db.link a).associations ↔ x = a ∨ x ∈ db.associations :=
  mem_placeAssociation

theorem Consistent.link (h : db.Consistent) {a : Association} (can : db.Linkable a) : (db.link a).Consistent where
  toDirectoryConsistent := h.toDirectoryConsistent.congr rfl rfl
  ascending := h.ascending
  bounded := h.bounded
  texts := h.texts
  externalIds := h.externalIds
  pairs := (placeAssociation_perm a db.associations).nodup_iff.2 (List.nodup_cons.2 ⟨can.new, h.pairs⟩)
  linkedOrigin := by
    intro x hx
    rcases mem_link.1 hx with rfl | hx
    · exact can.origin
    · exact h.linkedOrigin x hx
  linkedApplication := by
    intro x hx
    rcases mem_link.1 hx with rfl | hx
    · exact can.application
    · exact h.linkedApplication x hx
  intact := h.intact

end Changes

end OriginRegistry.Database
