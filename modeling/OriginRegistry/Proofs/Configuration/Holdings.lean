import OriginRegistry.Proofs.Configuration.Catalogue

set_option autoImplicit false

namespace OriginRegistry

open Function (Injective update)

namespace Database

def holding (db : Database) (r : ResourceRow) : Holding :=
  ⟨r.id, r.createdAt, db.entriesOf r.id, r.createdAt ≠ r.lastModified⟩

def catalogue (db : Database) : Catalogue := ⟨db.typeOf?, fun key => (db.rowAt? key).map db.holding⟩

variable {source : Source} {db after : Database} {key : ResourceKey} {r : ResourceRow}

theorem catalogue_held (row : db.rowAt? key = some r) : db.catalogue.resources key = some (db.holding r) :=
  Option.map_eq_some_iff.2 ⟨r, row, rfl⟩

theorem catalogue_missing (row : db.rowAt? key = none) : db.catalogue.resources key = none :=
  Option.map_eq_none_iff.2 row

theorem Filed.apart (h : db.Filed source) {other : ResourceKey} {s : ResourceRow} (here : db.rowAt? key = some r)
    (there : db.rowAt? other = some s) (elsewhere : other ≠ key) : s.id ≠ r.id := by
  obtain ⟨hr, lies⟩ := h.rowAt?_eq_some_iff.1 here
  obtain ⟨hs, liesThere⟩ := h.rowAt?_eq_some_iff.1 there
  intro same
  have one : s = r := h.eq_of_id hs hr same
  subst one
  exact elsewhere (h.key_unique liesThere lies)

theorem Filed.unused (h : db.Filed source) (names : Injective source.name) {k : Nat} (later : db.drawn ≤ k) :
    db.catalogue.Unused (source.name k) where
  types := by
    intro name t found same
    obtain ⟨j, before, drawn⟩ := h.typesDrawn t (h.typeOf?_eq_some_iff.1 found).1
    have again := names (drawn.symm.trans same)
    omega
  resources := by
    intro key held found same
    obtain ⟨r, row, rfl⟩ := Option.map_eq_some_iff.1 found
    obtain ⟨j, before, drawn⟩ := h.resourcesDrawn r (h.rowAt?_eq_some_iff.1 row).1
    have again := names (drawn.symm.trans same)
    omega

theorem holding_shows (h : db.Filed source) (here : db.rowAt? key = some r) :
    (db.holding r).Shows key (ConfigurationManager.Tables.resourceOf db key.resourceType r) where
  id := rfl
  name := (h.rowAt?_eq_some_iff.1 here).2.2.1
  resourceType := rfl
  attributes := rfl
  createdAt := rfl
  modified := rfl

theorem catalogue_withType (h : db.Filed source) (names : Injective source.name) {draft : ResourceTypeDraft}
    (new : db.typeOf? draft.name = none) :
    (db.withType source draft).catalogue = db.catalogue.register (db.nextType source draft) := by
  have filed : (db.withType source draft).Filed source := h.withType names new
  have rows (key : ResourceKey) : (db.withType source draft).rowAt? key = db.rowAt? key := by
    ext r
    rw [filed.rowAt?_eq_some_iff, h.rowAt?_eq_some_iff]
    exact and_congr_right fun hr => liesAt_withType h names hr
  have types : (db.withType source draft).typeOf? = update db.typeOf? draft.name (db.nextType source draft) := by
    funext name
    rw [Function.update_apply]
    split
    next same =>
      subst same
      exact filed.typeOf?_eq_some_iff.2 ⟨mem_withType.2 (.inr rfl), rfl⟩
    next other =>
      have apart : draft.name ≠ name := fun same => other same.symm
      simp [typeOf?, withType, nextType, apart]
  simp only [catalogue, rows, types]
  rfl

theorem catalogue_changed (h : db.Filed source) (here : db.rowAt? key = some r) {now : Moment}
    (resources : after.resources = db.resources.map fun s => if s.id = r.id then { s with lastModified := now } else s)
    (types : after.resourceTypes = db.resourceTypes) {entries : List Attribute}
    (filled : after.entriesOf r.id = entries)
    (others : ∀ other, other ≠ r.id → after.entriesOf other = db.entriesOf other) :
    after.catalogue = db.catalogue.file key ((db.holding r).changed Catalogue.differ now entries) := by
  have read : after.typeOf? = db.typeOf? := by
    funext name
    rw [typeOf?, types, typeOf?]
  have rows (other : ResourceKey) : after.rowAt? other =
      (db.rowAt? other).map fun s => if s.id = r.id then { s with lastModified := now } else s := by
    rw [rowAt?, rowAt?, read]
    cases db.typeOf? other.resourceType with
    | none => rfl
    | some t =>
      rw [Option.bind_some, Option.bind_some, resourceOf?, resources, List.find?_map]
      refine congrArg (Option.map _) (congrArg (List.find? · db.resources) ?_)
      funext s
      simp only [Function.comp_apply]
      split <;> rfl
  simp only [catalogue, Catalogue.file, read, rows]
  congr 1
  funext other
  rw [Function.update_apply, Option.map_map]
  split
  next same =>
    subst same
    rw [here]
    simp [holding, Holding.changed, Catalogue.differ, filled]
  next elsewhere =>
    cases there : db.rowAt? other with
    | none => rfl
    | some s =>
      have apart : s.id ≠ r.id := h.apart here there elsewhere
      simp [holding, apart, others _ apart]

section NewResource

variable {t : ResourceType} {tenant : TenantId} {name : String} {time : Moment}

theorem rowAt?_withResource (h : db.Filed source) (names : Injective source.name) (ht : t ∈ db.resourceTypes)
    (new : db.resourceOf? tenant t.id name = none) (key : ResourceKey) :
    (db.withResource source tenant t.id name time).rowAt? key =
      if key = ⟨tenant, t.name, name⟩ then some ⟨source.name db.drawn, tenant, t.id, name, time, time⟩
      else db.rowAt? key := by
  have filed : (db.withResource source tenant t.id name time).Filed source := h.withResource names ht new
  have made : (db.withResource source tenant t.id name time).LiesAt
      ⟨source.name db.drawn, tenant, t.id, name, time, time⟩ ⟨tenant, t.name, name⟩ := ⟨rfl, rfl, t, ht, rfl, rfl⟩
  split
  next here =>
    subst here
    exact filed.rowAt?_eq_some_iff.2 ⟨mem_withResource.2 (.inr rfl), made⟩
  next elsewhere =>
    ext r
    rw [filed.rowAt?_eq_some_iff, h.rowAt?_eq_some_iff]
    constructor
    · rintro ⟨hr, lies⟩
      rcases mem_withResource.1 hr with hr | rfl
      · exact ⟨hr, lies⟩
      · exact absurd (filed.key_unique lies made) elsewhere
    · rintro ⟨hr, lies⟩
      exact ⟨mem_withResource.2 (.inl hr), lies⟩

theorem catalogue_new (h : db.Filed source) (names : Injective source.name) (ht : t ∈ db.resourceTypes)
    (new : db.resourceOf? tenant t.id name = none) (entries : List Attribute) :
    ((db.withResource source tenant t.id name time).withEntries (source.name db.drawn) entries).catalogue =
      db.catalogue.file ⟨tenant, t.name, name⟩ ⟨source.name db.drawn, time, entries, false⟩ := by
  have rows (key : ResourceKey) : (db.withResource source tenant t.id name time).rowAt? key = _ :=
    rowAt?_withResource h names ht new key
  have now : ((db.withResource source tenant t.id name time).withEntries (source.name db.drawn) entries).entriesOf
      (source.name db.drawn) = entries := by
    have before : (db.withResource source tenant t.id name time).entriesOf (source.name db.drawn) = [] :=
      h.entriesOf_new names
    rw [entriesOf_withEntries, if_pos rfl, before, List.nil_append]
  have others (other : String) (apart : other ≠ source.name db.drawn) :
      ((db.withResource source tenant t.id name time).withEntries (source.name db.drawn) entries).entriesOf other =
        db.entriesOf other := by
    rw [entriesOf_withEntries, if_neg apart]
    rfl
  simp only [catalogue, Catalogue.file]
  congr 1
  funext key
  have row : ((db.withResource source tenant t.id name time).withEntries (source.name db.drawn) entries).rowAt? key =
      (db.withResource source tenant t.id name time).rowAt? key := rfl
  rw [row, rows, Function.update_apply]
  split
  next => simp [holding, now]
  next =>
    cases found : db.rowAt? key with
    | none => rfl
    | some s =>
      have apart : s.id ≠ source.name db.drawn := h.newResourceId names s (h.rowAt?_eq_some_iff.1 found).1
      simp [holding, others _ apart]

end NewResource

section Changes

variable (h : db.Filed source) (here : db.rowAt? key = some r)

include h here

theorem catalogue_replaced (entries : List Attribute) :
    ((db.cleared source r.id).withEntries r.id entries).catalogue =
      db.catalogue.file key ((db.holding r).changed Catalogue.differ (source.moment (db.drawn + 1)) entries) := by
  have resources : ((db.cleared source r.id).withEntries r.id entries).resources = db.resources.map fun s =>
      if s.id = r.id then { s with lastModified := source.moment (db.drawn + 1) } else s := rfl
  refine catalogue_changed h here resources rfl ?_ ?_
  · rw [entriesOf_withEntries, if_pos rfl, entriesOf_cleared, if_pos rfl, List.nil_append]
  · intro other elsewhere
    rw [entriesOf_withEntries, if_neg elsewhere, entriesOf_cleared, if_neg elsewhere]

theorem catalogue_added (entry : Attribute) :
    ((db.withEntries r.id [entry]).touched source r.id).catalogue =
      db.catalogue.file key
        ((db.holding r).changed Catalogue.differ (source.moment db.drawn) (db.entriesOf r.id ++ [entry])) := by
  have resources : ((db.withEntries r.id [entry]).touched source r.id).resources = db.resources.map fun s =>
      if s.id = r.id then { s with lastModified := source.moment db.drawn } else s := rfl
  refine catalogue_changed h here resources rfl ?_ ?_
  · exact (entriesOf_withEntries db r.id r.id [entry]).trans (if_pos rfl)
  · exact fun other elsewhere => (entriesOf_withEntries db r.id other [entry]).trans (if_neg elsewhere)

theorem catalogue_deleted (gone : String) :
    ((db.withoutEntries r.id fun k => k = gone).touched source r.id).catalogue =
      db.catalogue.file key ((db.holding r).changed Catalogue.differ (source.moment db.drawn)
        ((db.entriesOf r.id).filter fun a => a.key ≠ gone)) := by
  have resources : ((db.withoutEntries r.id fun k => k = gone).touched source r.id).resources =
      db.resources.map fun s => if s.id = r.id then { s with lastModified := source.moment db.drawn } else s := rfl
  have others (other : String) := entriesOf_withoutEntries db r.id other fun k => k = gone
  refine catalogue_changed h here resources rfl ?_ ?_
  · refine ((others r.id).trans (if_pos rfl)).trans (List.filter_congr fun a _ => ?_)
    simp
  · exact fun other elsewhere => (others other).trans (if_neg elsewhere)

end Changes

theorem catalogue_made (h : db.Filed source) (names : Injective source.name) {t : ResourceType} {tenant : TenantId}
    {name : String} (ht : t ∈ db.resourceTypes) (new : db.resourceOf? tenant t.id name = none)
    (entries : List Attribute) :
    ((db.begun source tenant t.id name).withEntries (source.name (db.drawn + 1)) entries).catalogue =
      db.catalogue.file ⟨tenant, t.name, name⟩
        ⟨source.name (db.drawn + 1), source.moment db.drawn, entries, false⟩ :=
  catalogue_new h.now names ht new entries

end Database

end OriginRegistry
