import OriginRegistry.Configuration.Tables
import OriginRegistry.Proofs.OriginStore.Statements

set_option autoImplicit false

namespace OriginRegistry.Database

def typeOf? (db : Database) (name : String) : Option ResourceType := db.resourceTypes.find? fun t => t.name = name

def resourceOf? (db : Database) (tenant : TenantId) (typeId name : String) : Option ResourceRow :=
  db.resources.find? fun r => r.tenant = tenant && r.typeId = typeId && r.name = name

def entriesOf (db : Database) (resource : String) : List Attribute :=
  (db.attributes.filter fun a => a.resource = resource).map AttributeRow.entry

def nextType (source : Source) (db : Database) (draft : ResourceTypeDraft) : ResourceType :=
  ⟨source.name db.drawn, draft.name, draft.description⟩

def withType (source : Source) (db : Database) (draft : ResourceTypeDraft) : Database :=
  { db with resourceTypes := db.resourceTypes ++ [db.nextType source draft], drawn := db.drawn + 1 }

def withResource (source : Source) (db : Database) (tenant : TenantId) (typeId name : String) (time : Moment) :
    Database :=
  { db with
    resources := db.resources ++ [⟨source.name db.drawn, tenant, typeId, name, time, time⟩]
    drawn := db.drawn + 1 }

def touched (source : Source) (db : Database) (resource : String) : Database :=
  { db with
    resources := db.resources.map fun r =>
      if r.id = resource then { r with lastModified := source.moment db.drawn } else r
    drawn := db.drawn + 1 }

def withEntries (db : Database) (resource : String) (entries : List Attribute) : Database :=
  { db with attributes := db.attributes ++ entries.map fun entry => ⟨resource, entry⟩ }

def withoutEntries (db : Database) (resource : String) (p : String → Bool) : Database :=
  { db with attributes := db.attributes.filter fun a => !(a.resource = resource && p a.entry.key) }

variable {db : Database} {source : Source}

theorem typeNamed?_eq (h : db.Intact) (name : String) : db.typeNamed? name = .ok (db.typeOf? name) := by
  simp only [typeNamed?, h.need, ok_bind]
  rfl

theorem resourceNamed?_eq (h : db.Intact) (tenant : TenantId) (typeId name : String) :
    db.resourceNamed? tenant typeId name = .ok (db.resourceOf? tenant typeId name) := by
  simp only [resourceNamed?, h.need, ok_bind]
  rfl

theorem attributesOf_eq (h : db.Intact) (resource : String) : db.attributesOf resource = .ok (db.entriesOf resource) := by
  simp only [attributesOf, h.need, ok_bind]
  rfl

theorem insertType_eq (h : db.Intact) {draft : ResourceTypeDraft}
    (new : ∀ t ∈ db.resourceTypes, t.id ≠ source.name db.drawn) :
    db.insertType source draft = .ok (db.nextType source draft, db.withType source draft) := by
  have free : (db.resourceTypes.any fun t => t.id = source.name db.drawn) = false := by
    simpa using new
  simp only [insertType, h.need, ok_bind, free, Bool.false_eq_true, ↓reduceIte]
  rfl

theorem insertResource_eq (h : db.Intact) {tenant : TenantId} {typeId name : String} {time : Moment}
    (new : ∀ r ∈ db.resources, r.id ≠ source.name db.drawn) :
    db.insertResource source tenant typeId name time =
      .ok (source.name db.drawn, db.withResource source tenant typeId name time) := by
  have free : (db.resources.any fun r => r.id = source.name db.drawn) = false := by
    simpa using new
  simp only [insertResource, h.need, h.needParents, ok_bind, free, Bool.false_eq_true, ↓reduceIte]
  rfl

theorem touch_eq (h : db.Intact) (resource : String) : db.touch source resource = .ok (db.touched source resource) := by
  simp only [touch, h.need, ok_bind]
  rfl

theorem deleteAttributes_eq (h : db.Intact) (resource : String) (p : String → Bool) :
    db.deleteAttributes resource p = .ok (db.withoutEntries resource p) := by
  simp only [deleteAttributes, h.need, h.needParents, ok_bind]
  rfl

theorem taken_iff {resource key : String} :
    (db.attributes.any fun a => a.resource = resource && a.entry.key = key) = true ↔
      key ∈ (db.entriesOf resource).map Attribute.key := by
  simp only [entriesOf, List.any_eq_true, Bool.and_eq_true, decide_eq_true_eq, List.mem_map, List.mem_filter]
  constructor
  · rintro ⟨a, ha, here, same⟩
    exact ⟨a.entry, ⟨a, ⟨ha, here⟩, rfl⟩, same⟩
  · rintro ⟨_, ⟨a, ⟨ha, here⟩, rfl⟩, same⟩
    exact ⟨a, ha, here, same⟩

theorem insertAttribute_eq (h : db.Intact) (resource : String) (entry : Attribute) :
    db.insertAttribute resource entry =
      if entry.key ∈ (db.entriesOf resource).map Attribute.key then .error (.duplicate .attributeKey)
      else .ok (db.withEntries resource [entry]) := by
  simp only [insertAttribute, h.need, h.needParents, ok_bind, taken_iff]
  split <;> rfl

theorem entriesOf_withEntries (db : Database) (resource other : String) (entries : List Attribute) :
    (db.withEntries resource entries).entriesOf other =
      if other = resource then db.entriesOf other ++ entries else db.entriesOf other := by
  simp only [entriesOf, withEntries, List.filter_append, List.filter_map, List.map_append, List.map_map]
  by_cases same : other = resource
  · subst same
    simp [Function.comp_def]
  · have apart : resource ≠ other := fun h => same h.symm
    simp [same, apart, Function.comp_def]

theorem entriesOf_withoutEntries (db : Database) (resource other : String) (p : String → Bool) :
    (db.withoutEntries resource p).entriesOf other =
      if other = resource then (db.entriesOf other).filter fun entry => !p entry.key else db.entriesOf other := by
  simp only [entriesOf, withoutEntries, List.filter_filter]
  by_cases same : other = resource
  · subst same
    rw [if_pos rfl, List.filter_map, List.filter_filter]
    refine congrArg (List.map _) (List.filter_congr fun a _ => ?_)
    by_cases here : a.resource = other <;> simp [here]
  · rw [if_neg same]
    refine congrArg (List.map _) (List.filter_congr fun a _ => ?_)
    by_cases here : a.resource = other <;> simp [here, same]

theorem withEntries_append (db : Database) (resource : String) (first second : List Attribute) :
    (db.withEntries resource first).withEntries resource second = db.withEntries resource (first ++ second) := by
  simp [withEntries]

theorem withEntries_nil (db : Database) (resource : String) : db.withEntries resource [] = db := by
  simp [withEntries]

theorem keys_append_nodup {entries : List Attribute} {entry : Attribute} (once : (entries.map Attribute.key).Nodup)
    (new : entry.key ∉ entries.map Attribute.key) : ((entries ++ [entry]).map Attribute.key).Nodup := by
  rw [List.map_append]
  refine List.nodup_append.2 ⟨once, List.nodup_singleton _, ?_⟩
  intro k hk l hl same
  rw [List.map_cons, List.map_nil, List.mem_singleton] at hl
  exact new (hl ▸ same ▸ hk)

/-- Several attributes are entered one after the other; all are if no key comes twice, counting those already there. -/
theorem insertAttributes_eq (h : db.Intact) {resource : String} {entries : List Attribute}
    (before : ((db.entriesOf resource).map Attribute.key).Nodup) :
    entries.foldlM (fun db entry => db.insertAttribute resource entry) db =
      if ((db.entriesOf resource ++ entries).map Attribute.key).Nodup then .ok (db.withEntries resource entries)
      else .error (.duplicate .attributeKey) := by
  induction entries generalizing db with
  | nil =>
    rw [List.append_nil, if_pos before, withEntries_nil]
    rfl
  | cons entry entries ih =>
    rw [List.foldlM_cons, insertAttribute_eq h]
    by_cases taken : entry.key ∈ (db.entriesOf resource).map Attribute.key
    · have twice : ¬ ((db.entriesOf resource ++ entry :: entries).map Attribute.key).Nodup := by
        intro once
        rw [List.map_append] at once
        exact (List.nodup_append.1 once).2.2 _ taken _ (by simp) rfl
      rw [if_pos taken, if_neg twice]
      rfl
    · have entered : (db.withEntries resource [entry]).entriesOf resource = db.entriesOf resource ++ [entry] := by
        rw [entriesOf_withEntries, if_pos rfl]
      have still : (((db.withEntries resource [entry]).entriesOf resource).map Attribute.key).Nodup := by
        rw [entered]
        exact keys_append_nodup before taken
      have intact : (db.withEntries resource [entry]).Intact := h
      rw [if_neg taken, ok_bind, ih intact still, entered, withEntries_append, List.append_assoc]
      rfl

end OriginRegistry.Database
