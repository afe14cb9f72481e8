import OriginRegistry.Proofs.Configuration.Frame
import OriginRegistry.Proofs.Configuration.Statements
import OriginRegistry.Proofs.Distinct

set_option autoImplicit false

namespace OriginRegistry

structure ResourceKey where
  tenant : TenantId
  resourceType : String
  name : String
  deriving DecidableEq, Repr

namespace Database

def rowAt? (db : Database) (key : ResourceKey) : Option ResourceRow :=
  (db.typeOf? key.resourceType).bind fun t => db.resourceOf? key.tenant t.id key.name

/-- The attributes of the resource under a key; there are none as long as its type does not exist. -/
def contents (db : Database) (key : ResourceKey) : Option (List Attribute) :=
  (db.rowAt? key).map fun r => db.entriesOf r.id

/-- Types and resources have ids of their own, which were drawn, and each row has the row that it belongs to. -/
structure Filed (source : Source) (db : Database) : Prop where
  typeIds : (db.resourceTypes.map ResourceType.id).Nodup
  typeNames : (db.resourceTypes.map ResourceType.name).Nodup
  resourceIds : (db.resources.map ResourceRow.id).Nodup
  resourceNames : (db.resources.map fun r => (r.tenant, r.typeId, r.name)).Nodup
  typed : ∀ r ∈ db.resources, ∃ t ∈ db.resourceTypes, t.id = r.typeId
  owned : ∀ a ∈ db.attributes, ∃ r ∈ db.resources, r.id = a.resource
  keysOnce : ∀ resource, ((db.entriesOf resource).map Attribute.key).Nodup
  typesDrawn : ∀ t ∈ db.resourceTypes, ∃ k < db.drawn, t.id = source.name k
  resourcesDrawn : ∀ r ∈ db.resources, ∃ k < db.drawn, r.id = source.name k

def LiesAt (db : Database) (r : ResourceRow) (key : ResourceKey) : Prop :=
  r.tenant = key.tenant ∧ r.name = key.name ∧ ∃ t ∈ db.resourceTypes, t.id = r.typeId ∧ t.name = key.resourceType

def Holds (db : Database) (id : String) (key : ResourceKey) : Prop := ∃ r ∈ db.resources, r.id = id ∧ db.LiesAt r key

variable {source : Source} {db after : Database} {key : ResourceKey}

theorem empty_filed (source : Source) : empty.Filed source where
  typeIds := List.nodup_nil
  typeNames := List.nodup_nil
  resourceIds := List.nodup_nil
  resourceNames := List.nodup_nil
  typed := nofun
  owned := nofun
  keysOnce := fun _ => List.nodup_nil
  typesDrawn := nofun
  resourcesDrawn := nofun

theorem typeOf?_isSome {entries : List Attribute}
    (stored : db.contents key = some entries) : (db.typeOf? key.resourceType).isSome = true := by
  obtain ⟨r, found, _⟩ := Option.map_eq_some_iff.1 stored
  obtain ⟨t, known, _⟩ := Option.bind_eq_some_iff.1 found
  exact Option.isSome_iff_exists.2 ⟨t, known⟩

namespace Filed

theorem typeOf?_eq_some_iff (h : db.Filed source) {name : String} {t : ResourceType} :
    db.typeOf? name = some t ↔ t ∈ db.resourceTypes ∧ t.name = name := by
  have unique : ∀ t ∈ db.resourceTypes, ∀ u ∈ db.resourceTypes, decide (t.name = name) = true →
      decide (u.name = name) = true → t = u := fun t ht u hu here there =>
    List.inj_on_of_nodup_map h.typeNames ht hu ((of_decide_eq_true here).trans (of_decide_eq_true there).symm)
  rw [typeOf?, find?_eq_some_iff_of_unique unique, decide_eq_true_eq]

theorem resourceOf?_eq_some_iff (h : db.Filed source) {tenant : TenantId} {typeId name : String} {r : ResourceRow} :
    db.resourceOf? tenant typeId name = some r ↔
      r ∈ db.resources ∧ r.tenant = tenant ∧ r.typeId = typeId ∧ r.name = name := by
  have unique : ∀ r ∈ db.resources, ∀ s ∈ db.resources,
      (decide (r.tenant = tenant) && decide (r.typeId = typeId) && decide (r.name = name)) = true →
      (decide (s.tenant = tenant) && decide (s.typeId = typeId) && decide (s.name = name)) = true → r = s := by
    intro r hr s hs here there
    simp only [Bool.and_eq_true, decide_eq_true_eq] at here there
    obtain ⟨⟨rTenant, rType⟩, rName⟩ := here
    obtain ⟨⟨sTenant, sType⟩, sName⟩ := there
    refine List.inj_on_of_nodup_map h.resourceNames hr hs ?_
    rw [rTenant, rType, rName, sTenant, sType, sName]
  rw [resourceOf?, find?_eq_some_iff_of_unique unique]
  simp only [Bool.and_eq_true, decide_eq_true_eq, and_assoc]

theorem rowAt?_eq_some_iff (h : db.Filed source) {r : ResourceRow} :
    db.rowAt? key = some r ↔ r ∈ db.resources ∧ db.LiesAt r key := by
  rw [rowAt?, Option.bind_eq_some_iff]
  simp only [h.typeOf?_eq_some_iff, h.resourceOf?_eq_some_iff]
  constructor
  · rintro ⟨t, ⟨ht, named⟩, hr, own, typed, same⟩
    exact ⟨hr, own, same, t, ht, typed.symm, named⟩
  · rintro ⟨hr, own, same, t, ht, typed, named⟩
    exact ⟨t, ⟨ht, named⟩, hr, own, typed.symm, same⟩

theorem contents_eq_some_iff (h : db.Filed source) {entries : List Attribute} :
    db.contents key = some entries ↔ ∃ r ∈ db.resources, db.LiesAt r key ∧ db.entriesOf r.id = entries := by
  rw [contents, Option.map_eq_some_iff]
  simp only [h.rowAt?_eq_some_iff, and_assoc]

theorem keys_nodup (h : db.Filed source) {entries : List Attribute} (stored : db.contents key = some entries) :
    (entries.map Attribute.key).Nodup := by
  obtain ⟨r, _, _, rfl⟩ := h.contents_eq_some_iff.1 stored
  exact h.keysOnce r.id

theorem key_unique (h : db.Filed source) {r : ResourceRow} {other : ResourceKey} (here : db.LiesAt r key)
    (there : db.LiesAt r other) : key = other := by
  obtain ⟨tenant, name, t, ht, typed, named⟩ := here
  obtain ⟨tenant', name', u, hu, typed', named'⟩ := there
  have same : t = u := List.inj_on_of_nodup_map h.typeIds ht hu (typed.trans typed'.symm)
  obtain ⟨_, _, _⟩ := key
  obtain ⟨_, _, _⟩ := other
  subst same
  exact ResourceKey.mk.injEq .. ▸ ⟨tenant.symm.trans tenant', named.symm.trans named', name.symm.trans name'⟩

theorem eq_of_id (h : db.Filed source) {r s : ResourceRow} (hr : r ∈ db.resources) (hs : s ∈ db.resources)
    (same : r.id = s.id) : r = s := List.inj_on_of_nodup_map h.resourceIds hr hs same

theorem newTypeId (h : db.Filed source) (names : Function.Injective source.name) :
    ∀ t ∈ db.resourceTypes, t.id ≠ source.name db.drawn := by
  intro t ht same
  obtain ⟨k, before, drawn⟩ := h.typesDrawn t ht
  have again := names (drawn.symm.trans same)
  omega

theorem newResourceId (h : db.Filed source) (names : Function.Injective source.name) :
    ∀ r ∈ db.resources, r.id ≠ source.name db.drawn := by
  intro r hr same
  obtain ⟨k, before, drawn⟩ := h.resourcesDrawn r hr
  have again := names (drawn.symm.trans same)
  omega

theorem congr (h : db.Filed source) (types : after.resourceTypes = db.resourceTypes)
    (resources : after.resources = db.resources) (attributes : after.attributes = db.attributes)
    (drawn : db.drawn ≤ after.drawn) : after.Filed source := by
  have entries : ∀ resource, after.entriesOf resource = db.entriesOf resource := by
    intro resource
    rw [entriesOf, attributes, entriesOf]
  constructor
  all_goals simp only [types, resources, attributes, entries]
  · exact h.typeIds
  · exact h.typeNames
  · exact h.resourceIds
  · exact h.resourceNames
  · exact h.typed
  · exact h.owned
  · exact h.keysOnce
  · exact fun t ht => (h.typesDrawn t ht).imp fun k hk => ⟨Nat.lt_of_lt_of_le hk.1 drawn, hk.2⟩
  · exact fun r hr => (h.resourcesDrawn r hr).imp fun k hk => ⟨Nat.lt_of_lt_of_le hk.1 drawn, hk.2⟩

end Filed

theorem contents_congr (types : after.resourceTypes = db.resourceTypes) (resources : after.resources = db.resources)
    (attributes : after.attributes = db.attributes) : after.contents key = db.contents key := by
  simp only [contents, rowAt?, typeOf?, resourceOf?, entriesOf, types, resources, attributes]

theorem mem_withType {draft : ResourceTypeDraft} {t : ResourceType} :
    t ∈ (db.withType source draft).resourceTypes ↔ t ∈ db.resourceTypes ∨ t = db.nextType source draft := by
  simp [withType]

theorem Filed.withType (h : db.Filed source) (names : Function.Injective source.name) {draft : ResourceTypeDraft}
    (new : db.typeOf? draft.name = none) : (db.withType source draft).Filed source where
  typeIds := by
    simp only [Database.withType, List.map_append, List.map_cons, List.map_nil]
    refine List.nodup_append.2 ⟨h.typeIds, List.nodup_singleton _, ?_⟩
    simp only [List.mem_map, List.mem_singleton, forall_exists_index, and_imp, forall_apply_eq_imp_iff₂, forall_eq]
    exact h.newTypeId names
  typeNames := by
    simp only [Database.withType, List.map_append, List.map_cons, List.map_nil]
    refine List.nodup_append.2 ⟨h.typeNames, List.nodup_singleton _, ?_⟩
    simp only [List.mem_map, List.mem_singleton, forall_exists_index, and_imp, forall_apply_eq_imp_iff₂, forall_eq]
    intro t ht same
    have found := h.typeOf?_eq_some_iff.2 ⟨ht, same⟩
    rw [show (db.nextType source draft).name = draft.name from rfl, new] at found
    cases found
  resourceIds := h.resourceIds
  resourceNames := h.resourceNames
  typed := fun r hr => (h.typed r hr).imp fun t ht => ⟨mem_withType.2 (.inl ht.1), ht.2⟩
  owned := h.owned
  keysOnce := h.keysOnce
  typesDrawn := by
    intro t ht
    rcases mem_withType.1 ht with ht | rfl
    · exact (h.typesDrawn t ht).imp fun k hk => ⟨Nat.lt_succ_of_lt hk.1, hk.2⟩
    · exact ⟨db.drawn, Nat.lt_succ_self db.drawn, rfl⟩
  resourcesDrawn := fun r hr => (h.resourcesDrawn r hr).imp fun k hk => ⟨Nat.lt_succ_of_lt hk.1, hk.2⟩

theorem liesAt_withType (h : db.Filed source) (names : Function.Injective source.name) {draft : ResourceTypeDraft}
    {r : ResourceRow} (hr : r ∈ db.resources) : (db.withType source draft).LiesAt r key ↔ db.LiesAt r key := by
  refine and_congr_right fun _ => and_congr_right fun _ => ?_
  constructor
  · rintro ⟨t, ht, typed, named⟩
    rcases mem_withType.1 ht with ht | rfl
    · exact ⟨t, ht, typed, named⟩
    · obtain ⟨u, hu, same⟩ := h.typed r hr
      exact absurd (same.trans typed.symm) (h.newTypeId names u hu)
  · rintro ⟨t, ht, typed, named⟩
    exact ⟨t, mem_withType.2 (.inl ht), typed, named⟩

theorem contents_withType (h : db.Filed source) (names : Function.Injective source.name) {draft : ResourceTypeDraft}
    (new : db.typeOf? draft.name = none) : (db.withType source draft).contents key = db.contents key := by
  ext entries
  rw [(h.withType names new).contents_eq_some_iff, h.contents_eq_some_iff]
  constructor
  · rintro ⟨r, hr, lies, same⟩
    exact ⟨r, hr, (liesAt_withType h names hr).1 lies, same⟩
  · rintro ⟨r, hr, lies, same⟩
    exact ⟨r, hr, (liesAt_withType h names hr).2 lies, same⟩

section NewResource

variable {t : ResourceType} {time : Moment}

theorem mem_withResource {tenant : TenantId} {typeId name : String} {r : ResourceRow} :
    r ∈ (db.withResource source tenant typeId name time).resources ↔
      r ∈ db.resources ∨ r = ⟨source.name db.drawn, tenant, typeId, name, time, time⟩ := by
  simp [withResource]

theorem Filed.withResource (h : db.Filed source) (names : Function.Injective source.name) (ht : t ∈ db.resourceTypes)
    {tenant : TenantId} {name : String} (new : db.resourceOf? tenant t.id name = none) :
    (db.withResource source tenant t.id name time).Filed source where
  typeIds := h.typeIds
  typeNames := h.typeNames
  resourceIds := by
    simp only [Database.withResource, List.map_append, List.map_cons, List.map_nil]
    refine List.nodup_append.2 ⟨h.resourceIds, List.nodup_singleton _, ?_⟩
    simp only [List.mem_map, List.mem_singleton, forall_exists_index, and_imp, forall_apply_eq_imp_iff₂, forall_eq]
    exact h.newResourceId names
  resourceNames := by
    simp only [Database.withResource, List.map_append, List.map_cons, List.map_nil]
    refine List.nodup_append.2 ⟨h.resourceNames, List.nodup_singleton _, ?_⟩
    simp only [List.mem_map, List.mem_singleton, forall_exists_index, and_imp, forall_apply_eq_imp_iff₂, forall_eq]
    intro r hr same
    simp only [Prod.mk.injEq] at same
    have found := h.resourceOf?_eq_some_iff.2 ⟨hr, same⟩
    rw [new] at found
    cases found
  typed := by
    intro r hr
    rcases mem_withResource.1 hr with hr | rfl
    · exact h.typed r hr
    · exact ⟨t, ht, rfl⟩
  owned := fun a ha => (h.owned a ha).imp fun r hr => ⟨mem_withResource.2 (.inl hr.1), hr.2⟩
  keysOnce := h.keysOnce
  typesDrawn := fun t ht => (h.typesDrawn t ht).imp fun k hk => ⟨Nat.lt_succ_of_lt hk.1, hk.2⟩
  resourcesDrawn := by
    intro r hr
    rcases mem_withResource.1 hr with hr | rfl
    · exact (h.resourcesDrawn r hr).imp fun k hk => ⟨Nat.lt_succ_of_lt hk.1, hk.2⟩
    · exact ⟨db.drawn, Nat.lt_succ_self db.drawn, rfl⟩

theorem Filed.entriesOf_new (h : db.Filed source) (names : Function.Injective source.name) :
    db.entriesOf (source.name db.drawn) = [] := by
  have none : db.attributes.filter (fun a => a.resource = source.name db.drawn) = [] := by
    rw [List.filter_eq_nil_iff]
    intro a ha here
    obtain ⟨r, hr, same⟩ := h.owned a ha
    exact h.newResourceId names r hr (same.trans (of_decide_eq_true here))
  rw [entriesOf, none]
  rfl

theorem contents_withResource (h : db.Filed source) (names : Function.Injective source.name)
    (ht : t ∈ db.resourceTypes) {tenant : TenantId} {name : String} (new : db.resourceOf? tenant t.id name = none) :
    (db.withResource source tenant t.id name time).contents key =
      if key = ⟨tenant, t.name, name⟩ then some [] else db.contents key := by
  have filed : (db.withResource source tenant t.id name time).Filed source := h.withResource names ht new
  have made : (db.withResource source tenant t.id name time).LiesAt
      ⟨source.name db.drawn, tenant, t.id, name, time, time⟩ ⟨tenant, t.name, name⟩ := ⟨rfl, rfl, t, ht, rfl, rfl⟩
  split
  next here =>
    subst here
    exact filed.contents_eq_some_iff.2 ⟨_, mem_withResource.2 (.inr rfl), made, h.entriesOf_new names⟩
  next elsewhere =>
    ext entries
    rw [filed.contents_eq_some_iff, h.contents_eq_some_iff]
    constructor
    · rintro ⟨r, hr, lies, same⟩
      rcases mem_withResource.1 hr with hr | rfl
      · exact ⟨r, hr, lies, same⟩
      · exact absurd (filed.key_unique lies made) elsewhere
    · rintro ⟨r, hr, lies, same⟩
      exact ⟨r, mem_withResource.2 (.inl hr), lies, same⟩

end NewResource

theorem mem_touched {resource : String} {r : ResourceRow} :
    r ∈ (db.touched source resource).resources ↔
      ∃ s ∈ db.resources, (if s.id = resource then { s with lastModified := source.moment db.drawn } else s) = r :=
  List.mem_map

theorem touched_map {β : Type} (f : ResourceRow → β) (resource : String)
    (same : ∀ r m, f { r with lastModified := m } = f r) :
    (db.touched source resource).resources.map f = db.resources.map f := by
  simp only [touched, List.map_map]
  refine List.map_congr_left fun r _ => ?_
  simp only [Function.comp_apply]
  split
  · exact same r _
  · rfl

theorem Filed.touched (h : db.Filed source) (resource : String) : (db.touched source resource).Filed source where
  typeIds := h.typeIds
  typeNames := h.typeNames
  resourceIds := by
    rw [touched_map _ _ fun _ _ => rfl]
    exact h.resourceIds
  resourceNames := by
    rw [touched_map _ _ fun _ _ => rfl]
    exact h.resourceNames
  typed := by
    intro r hr
    obtain ⟨s, hs, rfl⟩ := mem_touched.1 hr
    have typed := h.typed s hs
    split <;> exact typed
  owned := by
    intro a ha
    obtain ⟨s, hs, same⟩ := h.owned a ha
    refine ⟨_, mem_touched.2 ⟨s, hs, rfl⟩, ?_⟩
    split <;> exact same
  keysOnce := h.keysOnce
  typesDrawn := fun t ht => (h.typesDrawn t ht).imp fun k hk => ⟨Nat.lt_succ_of_lt hk.1, hk.2⟩
  resourcesDrawn := by
    intro r hr
    obtain ⟨s, hs, rfl⟩ := mem_touched.1 hr
    obtain ⟨k, before, drawn⟩ := h.resourcesDrawn s hs
    refine ⟨k, Nat.lt_succ_of_lt before, ?_⟩
    split <;> exact drawn

theorem contents_touched (h : db.Filed source) (resource : String) :
    (db.touched source resource).contents key = db.contents key := by
  ext entries
  rw [(h.touched resource).contents_eq_some_iff, h.contents_eq_some_iff]
  constructor
  · rintro ⟨r, hr, lies, same⟩
    obtain ⟨s, hs, rfl⟩ := mem_touched.1 hr
    by_cases here : s.id = resource
    · rw [if_pos here] at lies same
      exact ⟨s, hs, lies, same⟩
    · rw [if_neg here] at lies same
      exact ⟨s, hs, lies, same⟩
  · rintro ⟨s, hs, lies, same⟩
    refine ⟨_, mem_touched.2 ⟨s, hs, rfl⟩, ?_⟩
    split
    · exact ⟨lies, same⟩
    · exact ⟨lies, same⟩

/-- Where only the attributes of one resource are others, there is order if its keys are in order. -/
theorem Filed.reattributed (h : db.Filed source) (types : after.resourceTypes = db.resourceTypes)
    (resources : after.resources = db.resources) (drawn : after.drawn = db.drawn) {resource : String}
    (others : ∀ other, other ≠ resource → after.entriesOf other = db.entriesOf other)
    (owned : ∀ a ∈ after.attributes, ∃ r ∈ db.resources, r.id = a.resource)
    (once : ((after.entriesOf resource).map Attribute.key).Nodup) : after.Filed source where
  typeIds := types ▸ h.typeIds
  typeNames := types ▸ h.typeNames
  resourceIds := resources ▸ h.resourceIds
  resourceNames := resources ▸ h.resourceNames
  typed := by
    rw [types, resources]
    exact h.typed
  owned := by
    rw [resources]
    exact owned
  keysOnce := by
    intro other
    by_cases same : other = resource
    · exact same ▸ once
    · rw [others other same]
      exact h.keysOnce other
  typesDrawn := by
    rw [types, drawn]
    exact h.typesDrawn
  resourcesDrawn := by
    rw [resources, drawn]
    exact h.resourcesDrawn

theorem contents_reattributed (h : db.Filed source) (types : after.resourceTypes = db.resourceTypes)
    (resources : after.resources = db.resources) {id : String} (holds : db.Holds id key)
    (others : ∀ other, other ≠ id → after.entriesOf other = db.entriesOf other) (other : ResourceKey) :
    after.contents other = if other = key then some (after.entriesOf id) else db.contents other := by
  have rows : after.rowAt? other = db.rowAt? other := by
    simp only [rowAt?, typeOf?, resourceOf?, types, resources]
  obtain ⟨r, hr, rfl, lies⟩ := holds
  rw [contents, rows]
  split
  next here =>
    subst here
    rw [h.rowAt?_eq_some_iff.2 ⟨hr, lies⟩]
    rfl
  next elsewhere =>
    rw [contents]
    cases found : db.rowAt? other with
    | none => rfl
    | some s =>
      obtain ⟨hs, there⟩ := h.rowAt?_eq_some_iff.1 found
      have apart : s.id ≠ r.id := fun same => elsewhere (h.key_unique (h.eq_of_id hs hr same ▸ there) lies)
      rw [Option.map_some, Option.map_some, others _ apart]

end Database

end OriginRegistry
