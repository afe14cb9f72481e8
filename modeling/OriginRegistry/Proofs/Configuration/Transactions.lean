import Mathlib.Logic.Function.Basic
import OriginRegistry.Proofs.Configuration.Contents

set_option autoImplicit false

namespace OriginRegistry

open Function (Injective)

namespace Database

def cleared (source : Source) (db : Database) (id : String) : Database :=
  ((db.now source).2.withoutEntries id fun _ => true).touched source id

def begun (source : Source) (db : Database) (tenant : TenantId) (typeId name : String) : Database :=
  (db.now source).2.withResource source tenant typeId name (source.moment db.drawn)

theorem entriesOf_cleared (source : Source) (db : Database) (id other : String) :
    (db.cleared source id).entriesOf other = if other = id then [] else db.entriesOf other := by
  have same : (db.cleared source id).entriesOf other = ((db.now source).2.withoutEntries id fun _ => true).entriesOf other :=
    rfl
  rw [same, entriesOf_withoutEntries]
  refine ite_congr rfl (fun _ => ?_) fun _ => rfl
  exact List.filter_eq_nil_iff.2 fun _ _ => nofun

theorem Filed.now {source : Source} {db : Database} (h : db.Filed source) : (db.now source).2.Filed source :=
  h.congr rfl rfl rfl (Nat.le_succ db.drawn)

theorem Filed.entriesOf_begun {source : Source} {db : Database} (h : db.Filed source) (names : Injective source.name)
    (tenant : TenantId) (typeId name : String) :
    (db.begun source tenant typeId name).entriesOf (source.name (db.drawn + 1)) = [] :=
  h.now.entriesOf_new names

end Database

namespace ConfigurationManager.Tables

open Database

variable {source : Source} {db : Database} {tenant : TenantId} {resourceType : String}

theorem requireType_eq (intact : db.Intact) (name : String) :
    requireType db name =
      match db.typeOf? name with
      | some t => .ok t
      | none => .error (.typeMissing name) := by
  rw [requireType, typeNamed?_eq intact]
  rfl

theorem requireResource_eq (intact : db.Intact) (key : ResourceKey) :
    requireResource db key.tenant key.resourceType key.name =
      match db.typeOf? key.resourceType, db.rowAt? key with
      | none, _ => .error (.typeMissing key.resourceType)
      | some _, none => .error (.resourceMissing key.resourceType key.name)
      | some _, some r => .ok r := by
  rw [requireResource, requireType_eq intact, rowAt?]
  cases db.typeOf? key.resourceType with
  | none => rfl
  | some t =>
    simp only [ok_bind, resourceNamed?_eq intact, Option.bind_some]
    cases db.resourceOf? key.tenant t.id key.name <;> rfl

section Replace

variable {t : ResourceType} {draft : ResourceDraft}

/-- Once there is a resource without attributes, only the attributes are left to be refused. -/
theorem replaceIn_of_fresh (intact : db.Intact) (typed : db.typeOf? resourceType = some t) {id : String}
    {createdAt : Moment} {mid : Database}
    (fresh : freshResource source tenant t.id draft.name (db.now source).1 (db.now source).2 = .ok (id, createdAt, mid))
    (intactMid : mid.Intact) (empty : mid.entriesOf id = []) :
    replaceIn source tenant resourceType draft db =
      if (draft.attributes.map Attribute.key).Nodup then
        .ok (⟨id, draft.name, resourceType, draft.attributes, createdAt, source.moment db.drawn⟩,
          mid.withEntries id draft.attributes)
      else .error (.database (.duplicate .attributeKey)) := by
  have once : ((mid.entriesOf id).map Attribute.key).Nodup := by
    rw [empty]
    exact List.nodup_nil
  have entered : draft.attributes.foldlM (fun db entry => db.insertAttribute id entry) mid = _ :=
    insertAttributes_eq intactMid once
  rw [empty, List.nil_append] at entered
  simp only [replaceIn, requireType_eq intact, typed, ok_bind, fresh, Tables.run, ok_mapError, entered]
  split <;> rfl

theorem freshResource_old (intact : db.Intact) {name : String} {r : ResourceRow}
    (found : db.resourceOf? tenant t.id name = some r) :
    freshResource source tenant t.id name (db.now source).1 (db.now source).2 =
      .ok (r.id, r.createdAt, db.cleared source r.id) := by
  have there : (db.now source).2.resourceOf? tenant t.id name = some r := found
  have intactNow : (db.now source).2.Intact := intact
  have intactCleared : ((db.now source).2.withoutEntries r.id fun _ => true).Intact := intact
  simp only [freshResource, resourceNamed?_eq intactNow, there, ok_bind, deleteAttributes_eq intactNow,
    touch_eq intactCleared]
  rfl

theorem freshResource_new (h : db.Filed source) (intact : db.Intact) (names : Injective source.name) {name : String}
    (missing : db.resourceOf? tenant t.id name = none) :
    freshResource source tenant t.id name (db.now source).1 (db.now source).2 =
      .ok (source.name (db.drawn + 1), source.moment db.drawn, db.begun source tenant t.id name) := by
  have nowhere : (db.now source).2.resourceOf? tenant t.id name = none := missing
  have intactNow : (db.now source).2.Intact := intact
  simp only [freshResource, resourceNamed?_eq intactNow, nowhere, ok_bind,
    insertResource_eq intactNow (h.now.newResourceId names)]
  rfl

end Replace

section OneAttribute

variable {key : ResourceKey} {t : ResourceType} {r : ResourceRow}

theorem addAttributeIn_of_row (intact : db.Intact) (typed : db.typeOf? key.resourceType = some t)
    (here : db.rowAt? key = some r) (entry : Attribute) :
    addAttributeIn source key.tenant key.resourceType key.name entry db =
      if entry.key ∈ (db.entriesOf r.id).map Attribute.key then .error (.attributeExists key.name entry.key)
      else .ok (entry, (db.withEntries r.id [entry]).touched source r.id) := by
  have required : requireResource db key.tenant key.resourceType key.name = .ok r := by
    rw [requireResource_eq intact, typed, here]
  have present : ((db.entriesOf r.id).any fun a => a.key = entry.key) = true ↔
      entry.key ∈ (db.entriesOf r.id).map Attribute.key := by
    simp
  have intactToo : (db.withEntries r.id [entry]).Intact := intact
  simp only [addAttributeIn, required, ok_bind, attributesOf_eq intact, Tables.run, ok_mapError, present]
  by_cases taken : entry.key ∈ (db.entriesOf r.id).map Attribute.key
  · rw [if_pos taken, if_pos taken]
    rfl
  · rw [if_neg taken, if_neg taken]
    simp only [insertAttribute_eq intact, if_neg taken, ok_mapError, ok_bind, touch_eq intactToo]
    rfl

theorem deleteAttributeIn_of_row (intact : db.Intact) (typed : db.typeOf? key.resourceType = some t)
    (here : db.rowAt? key = some r) (gone : String) :
    deleteAttributeIn source key.tenant key.resourceType key.name gone db =
      if gone ∈ (db.entriesOf r.id).map Attribute.key then
        .ok ((), (db.withoutEntries r.id fun k => k = gone).touched source r.id)
      else .error (.attributeMissing key.name gone) := by
  have required : requireResource db key.tenant key.resourceType key.name = .ok r := by
    rw [requireResource_eq intact, typed, here]
  have kept : (db.withoutEntries r.id fun k => k = gone).attributes.length = db.attributes.length ↔
      gone ∉ (db.entriesOf r.id).map Attribute.key := by
    rw [withoutEntries, List.length_filter_eq_length_iff, ← taken_iff, List.any_eq_true]
    simp [imp_iff_not_or]
  have intactToo : (db.withoutEntries r.id fun k => k = gone).Intact := intact
  simp only [deleteAttributeIn, required, ok_bind, deleteAttributes_eq intact, Tables.run, ok_mapError, kept]
  by_cases there : gone ∈ (db.entriesOf r.id).map Attribute.key
  · rw [if_pos there, if_neg (not_not.2 there), touch_eq intactToo]
    rfl
  · rw [if_neg there, if_pos there]
    rfl

end OneAttribute

end ConfigurationManager.Tables

end OriginRegistry
