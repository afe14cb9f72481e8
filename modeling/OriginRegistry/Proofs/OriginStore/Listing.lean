import OriginRegistry.Proofs.Distinct
import OriginRegistry.Proofs.OriginStore.Scopes

set_option autoImplicit false

namespace OriginRegistry

namespace RegisteredOrigin

theorem collect_rows_append (o : RegisteredOrigin) {rest : List JoinedRow}
    (apart : ∀ next ∈ (collect rest).head?, next.id ≠ o.id) : collect (o.rows ++ rest) = o :: collect rest := by
  obtain ⟨id, externalId, origin, tenantLevel, applications⟩ := o
  have alone (application : Option Application) :
      collect (⟨id, externalId, origin, tenantLevel, application⟩ :: rest) =
        ⟨id, externalId, origin, tenantLevel, application.toList⟩ :: collect rest := by
    rw [collect]
    cases tail : collect rest with
    | nil => rfl
    | cons next others =>
      rw [tail] at apart
      have other : next.id ≠ id := apart next rfl
      simp only [other, ↓reduceIte]
  cases applications with
  | nil => exact alone none
  | cons first more =>
    simp only [rows]
    induction more generalizing first with
    | nil => exact alone (some first)
    | cons second more ih =>
      rw [List.map_cons, List.cons_append, collect, ih second apart]
      simp

end RegisteredOrigin

namespace Database

def applicationsAt (db : Database) (id : OriginId) : List Application :=
  ((db.associations.filter fun a => a.origin = id).map Association.application).filterMap db.application?

def entry (db : Database) (o : OriginRow) : RegisteredOrigin :=
  ⟨o.id, o.externalId, o.origin.text, o.tenantLevel, db.applicationsAt o.id⟩

variable {db : Database}

theorem DirectoryConsistent.application?_eq_some_iff (h : db.DirectoryConsistent) {id : ApplicationId}
    {application : Application} :
    db.application? id = some application ↔
      application.id = id ∧ ∃ r ∈ db.applications, r.application = application := by
  have unique : ∀ r ∈ db.applications, ∀ s ∈ db.applications, decide (r.application.id = id) = true →
      decide (s.application.id = id) = true → r = s := fun r hr s hs here there =>
    h.eq_of_applicationId hr hs ((of_decide_eq_true here).trans (of_decide_eq_true there).symm)
  rw [application?, Option.map_eq_some_iff]
  simp only [find?_eq_some_iff_of_unique unique, decide_eq_true_eq]
  constructor
  · rintro ⟨r, ⟨hr, same⟩, rfl⟩
    exact ⟨same, r, hr, rfl⟩
  · rintro ⟨same, r, hr, rfl⟩
    exact ⟨r, ⟨hr, same⟩, rfl⟩

theorem Consistent.mem_applicationsAt (h : db.Consistent) {id : OriginId} {application : Application} :
    application ∈ db.applicationsAt id ↔
      (∃ r ∈ db.applications, r.application = application) ∧ ⟨id, application.id⟩ ∈ db.associations := by
  simp only [applicationsAt, List.mem_filterMap, List.mem_map, List.mem_filter, decide_eq_true_eq,
    h.application?_eq_some_iff]
  constructor
  · rintro ⟨_, ⟨a, ⟨ha, rfl⟩, rfl⟩, same, registered⟩
    exact ⟨registered, same ▸ ha⟩
  · rintro ⟨registered, ha⟩
    exact ⟨application.id, ⟨_, ⟨ha, rfl⟩, rfl⟩, rfl, registered⟩

theorem Consistent.applicationsAt_nodup (h : db.Consistent) (id : OriginId) : (db.applicationsAt id).Nodup := by
  have keys : ((db.associations.filter fun a => a.origin = id).map Association.application).Nodup := by
    refine (h.pairs.filter _).map_on fun a ha b hb same => ?_
    have here : ∀ {x}, x ∈ db.associations.filter (fun a => a.origin = id) → x.origin = id :=
      fun hx => of_decide_eq_true (List.mem_filter.1 hx).2
    obtain ⟨_, _⟩ := a
    exact congrArg₂ Association.mk ((here ha).trans (here hb).symm) same
  refine keys.filterMap fun x y application hx hy => ?_
  exact (h.application?_eq_some_iff.1 hx).1.symm.trans (h.application?_eq_some_iff.1 hy).1

theorem Consistent.joinOrigin_eq (h : db.Consistent) (o : OriginRow) : db.joinOrigin o = (db.entry o).rows := by
  have found : ∀ a ∈ db.associations, ∃ application, db.application? a.application = some application := by
    intro a ha
    obtain ⟨r, hr, same⟩ := h.linkedApplication a ha
    exact ⟨r.application, h.application?_eq_some_iff.2 ⟨same, r, hr, rfl⟩⟩
  have inner : ∀ l : List Association, (∀ a ∈ l, a ∈ db.associations) →
      l.map (fun a => JoinedRow.mk o.id o.externalId o.origin.text o.tenantLevel (db.application? a.application)) =
        ((l.map Association.application).filterMap db.application?).map fun application =>
          ⟨o.id, o.externalId, o.origin.text, o.tenantLevel, some application⟩ := by
    intro l
    induction l with
    | nil => exact fun _ => rfl
    | cons a l ih =>
      intro sub
      obtain ⟨application, here⟩ := found a (sub a List.mem_cons_self)
      simp [here, ih fun b hb => sub b (List.mem_cons_of_mem a hb)]
  have all := inner (db.associations.filter fun a => a.origin = o.id) fun a ha => List.mem_of_mem_filter ha
  simp only [joinOrigin, entry, applicationsAt]
  cases used : db.associations.filter fun a => a.origin = o.id with
  | nil => rfl
  | cons a l =>
    rw [used] at all
    obtain ⟨application, here⟩ :=
      found a (List.mem_of_mem_filter (used ▸ List.mem_cons_self : a ∈ db.associations.filter _))
    simpa [here, RegisteredOrigin.rows] using all

theorem collect_flatMap_joinOrigin (h : db.Consistent) {rows : List OriginRow}
    (keys : (rows.map OriginRow.id).Nodup) :
    RegisteredOrigin.collect (rows.flatMap db.joinOrigin) = rows.map db.entry := by
  induction rows with
  | nil => rfl
  | cons o rows ih =>
    obtain ⟨fresh, keys⟩ := List.nodup_cons.1 keys
    rw [List.flatMap_cons, h.joinOrigin_eq o, RegisteredOrigin.collect_rows_append, ih keys, List.map_cons]
    intro next hn same
    rw [ih keys] at hn
    obtain ⟨r, hr, rfl⟩ := List.mem_map.1 (List.mem_of_mem_head? hn)
    exact fresh (List.mem_map.2 ⟨r, hr, same⟩)

theorem Consistent.listing_eq (h : db.Consistent) (p : OriginRow → Bool) :
    db.listing p = (db.origins.filter p).map db.entry :=
  collect_flatMap_joinOrigin h (h.ids.sublist (List.filter_sublist.map _))

theorem Consistent.mem_listing (h : db.Consistent) {p : OriginRow → Bool} {e : RegisteredOrigin} :
    e ∈ db.listing p ↔ ∃ o ∈ db.origins, p o = true ∧ db.entry o = e := by
  simp only [h.listing_eq, List.mem_map, List.mem_filter, and_assoc]

end Database

end OriginRegistry
