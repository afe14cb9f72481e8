import Mathlib.Logic.Function.Basic
import OriginRegistry.Proofs.Configuration.Transactions
import OriginRegistry.Proofs.Directory.Registration

set_option autoImplicit false

namespace OriginRegistry

open Function (update)

namespace Database

variable {source : Source} {db mid after : Database} {key : ResourceKey} {now later : ResourceKey → Option (List Attribute)}

/-- Nothing but resources is other than it was, and what is stored is what `now` says. -/
structure Refiles (source : Source) (now : ResourceKey → Option (List Attribute)) (db after : Database) : Prop where
  configured : Configured db after
  filed : after.Filed source
  contents : after.contents = now

theorem Refiles.refl (h : db.Filed source) : Refiles source db.contents db db := ⟨.refl db, h, rfl⟩

theorem Refiles.trans (first : Refiles source now db mid) (second : Refiles source later mid after) :
    Refiles source later db after :=
  ⟨first.configured.trans second.configured, second.filed, second.contents⟩

theorem now_refiles (h : db.Filed source) : Refiles source db.contents db (db.now source).2 where
  configured := now_configured source db
  filed := h.now
  contents := funext fun _ => contents_congr rfl rfl rfl

theorem withType_refiles (h : db.Filed source) (names : Function.Injective source.name) {draft : ResourceTypeDraft}
    (new : db.typeOf? draft.name = none) : Refiles source db.contents db (db.withType source draft) where
  configured := configured_of db _ _ _ (Nat.le_succ db.drawn)
  filed := h.withType names new
  contents := funext fun _ => contents_withType h names new

theorem withResource_refiles (h : db.Filed source) (names : Function.Injective source.name) {t : ResourceType}
    (ht : t ∈ db.resourceTypes) {tenant : TenantId} {name : String} {time : Moment}
    (new : db.resourceOf? tenant t.id name = none) :
    Refiles source (update db.contents ⟨tenant, t.name, name⟩ (some [])) db
      (db.withResource source tenant t.id name time) where
  configured := configured_of db _ _ _ (Nat.le_succ db.drawn)
  filed := h.withResource names ht new
  contents := by
    funext other
    rw [Function.update_apply]
    exact contents_withResource h names ht new

theorem touched_refiles (h : db.Filed source) (id : String) :
    Refiles source db.contents db (db.touched source id) where
  configured := configured_of db _ _ _ (Nat.le_succ db.drawn)
  filed := h.touched id
  contents := funext fun _ => contents_touched h id

theorem Holds.touched {id : String} (holds : db.Holds id key) (other : String) :
    (db.touched source other).Holds id key := by
  obtain ⟨r, hr, rfl, lies⟩ := holds
  refine ⟨_, mem_touched.2 ⟨r, hr, rfl⟩, ?_⟩
  split
  · exact ⟨rfl, lies⟩
  · exact ⟨rfl, lies⟩

theorem Holds.contents_eq (h : db.Filed source) {id : String} (holds : db.Holds id key) :
    db.contents key = some (db.entriesOf id) := by
  obtain ⟨r, hr, rfl, lies⟩ := holds
  exact h.contents_eq_some_iff.2 ⟨r, hr, lies, rfl⟩

theorem withEntries_refiles (h : db.Filed source) {id : String} (holds : db.Holds id key) {entries : List Attribute}
    (once : ((db.entriesOf id ++ entries).map Attribute.key).Nodup) :
    Refiles source (update db.contents key (some (db.entriesOf id ++ entries))) db (db.withEntries id entries) := by
  have here : (db.withEntries id entries).entriesOf id = db.entriesOf id ++ entries := by
    rw [entriesOf_withEntries, if_pos rfl]
  have others : ∀ other, other ≠ id → (db.withEntries id entries).entriesOf other = db.entriesOf other := by
    intro other apart
    rw [entriesOf_withEntries, if_neg apart]
  refine ⟨configured_of db _ _ _ (Nat.le_refl db.drawn), ?_, ?_⟩
  · refine h.reattributed rfl rfl rfl others ?_ (here ▸ once)
    intro a ha
    rcases List.mem_append.1 ha with old | new
    · exact h.owned a old
    · obtain ⟨entry, _, rfl⟩ := List.mem_map.1 new
      exact holds.imp fun r hr => ⟨hr.1, hr.2.1⟩
  · funext other
    rw [Function.update_apply, ← here]
    have types : (db.withEntries id entries).resourceTypes = db.resourceTypes := rfl
    exact contents_reattributed h types rfl holds others other

theorem withoutEntries_refiles (h : db.Filed source) {id : String} (holds : db.Holds id key) (p : String → Bool) :
    Refiles source (update db.contents key (some ((db.entriesOf id).filter fun entry => !p entry.key))) db
      (db.withoutEntries id p) := by
  have here : (db.withoutEntries id p).entriesOf id = (db.entriesOf id).filter fun entry => !p entry.key := by
    rw [entriesOf_withoutEntries, if_pos rfl]
  have others : ∀ other, other ≠ id → (db.withoutEntries id p).entriesOf other = db.entriesOf other := by
    intro other apart
    rw [entriesOf_withoutEntries, if_neg apart]
  refine ⟨configured_of db _ _ _ (Nat.le_refl db.drawn), ?_, ?_⟩
  · refine h.reattributed rfl rfl rfl others (fun a ha => h.owned a (List.mem_of_mem_filter ha)) ?_
    rw [here]
    exact (h.keysOnce id).sublist (List.filter_sublist.map _)
  · funext other
    rw [Function.update_apply, ← here]
    have types : (db.withoutEntries id p).resourceTypes = db.resourceTypes := rfl
    exact contents_reattributed h types rfl holds others other

end Database

namespace ConfigurationManager.Tables

open Database

variable {source : Source} {db : Database} {tenant : TenantId} {resourceType name : String}

theorem addTypeIn_eq (h : db.Filed source) (intact : db.Intact) (names : Function.Injective source.name)
    (draft : ResourceTypeDraft) :
    addTypeIn source draft db =
      match db.typeOf? draft.name with
      | some _ => .error (.typeExists draft.name)
      | none => .ok (db.nextType source draft, db.withType source draft) := by
  rw [addTypeIn, typeNamed?_eq intact, insertType_eq intact (h.newTypeId names)]
  rfl

def resourceOf (db : Database) (resourceType : String) (r : ResourceRow) : Resource :=
  ⟨r.id, r.name, resourceType, db.entriesOf r.id, r.createdAt, r.lastModified⟩

theorem resourceIn_eq (intact : db.Intact) (key : ResourceKey) :
    resourceIn key.tenant key.resourceType key.name db =
      match db.typeOf? key.resourceType with
      | some _ => .ok ((db.rowAt? key).map (resourceOf db key.resourceType))
      | none => .error (.typeMissing key.resourceType) := by
  rw [resourceIn, requireType_eq intact, rowAt?]
  cases db.typeOf? key.resourceType with
  | none => rfl
  | some t =>
    simp only [ok_bind, resourceNamed?_eq intact, Option.bind_some]
    cases db.resourceOf? key.tenant t.id key.name with
    | none => rfl
    | some r =>
      simp only [Tables.run, ok_mapError, ok_bind, attributesOf_eq intact]
      rfl

/-- For a replacement there is an empty resource, be it an old one or a new one. -/
theorem freshResource_ok (h : db.Filed source) (intact : db.Intact) (names : Function.Injective source.name)
    {t : ResourceType} (ht : t ∈ db.resourceTypes) (tenant : TenantId) (name : String) :
    ∃ id createdAt after,
      freshResource source tenant t.id name (db.now source).1 (db.now source).2 = .ok (id, createdAt, after) ∧
      after.Holds id ⟨tenant, t.name, name⟩ ∧ after.entriesOf id = [] ∧
      Refiles source (update db.contents ⟨tenant, t.name, name⟩ (some [])) db after := by
  have drawn := now_refiles h
  cases found : db.resourceOf? tenant t.id name with
  | none =>
    have made : (db.begun source tenant t.id name).Holds (source.name (db.drawn + 1)) ⟨tenant, t.name, name⟩ :=
      ⟨_, mem_withResource.2 (.inr rfl), rfl, rfl, rfl, t, ht, rfl, rfl⟩
    have step : Refiles source _ _ (db.begun source tenant t.id name) := withResource_refiles drawn.filed names ht found
    rw [drawn.contents] at step
    exact ⟨_, _, _, freshResource_new h intact names found, made, h.entriesOf_begun names .., drawn.trans step⟩
  | some r =>
    obtain ⟨hr, own, typed, named⟩ := h.resourceOf?_eq_some_iff.1 found
    have holds : (db.now source).2.Holds r.id ⟨tenant, t.name, name⟩ := ⟨r, hr, rfl, own, named, t, ht, typed.symm, rfl⟩
    have removed := withoutEntries_refiles drawn.filed holds fun _ => true
    have touched := touched_refiles removed.filed r.id
    have stays : ((db.now source).2.withoutEntries r.id fun _ => true).Holds r.id ⟨tenant, t.name, name⟩ := holds
    have empty : (db.cleared source r.id).entriesOf r.id = [] := by
      rw [entriesOf_cleared, if_pos rfl]
    have nothing : (((db.now source).2.entriesOf r.id).filter fun _ => !true) = [] :=
      List.filter_eq_nil_iff.2 fun _ _ => nofun
    rw [nothing, drawn.contents] at removed
    rw [removed.contents] at touched
    exact ⟨_, _, _, freshResource_old intact found, stays.touched r.id, empty, (drawn.trans removed).trans touched⟩

theorem replaceIn_eq (h : db.Filed source) (intact : db.Intact) (names : Function.Injective source.name)
    {t : ResourceType} (found : db.typeOf? resourceType = some t) (tenant : TenantId) (draft : ResourceDraft) :
    if (draft.attributes.map Attribute.key).Nodup then
      ∃ made after, replaceIn source tenant resourceType draft db = .ok (made, after) ∧
        Refiles source (update db.contents ⟨tenant, resourceType, draft.name⟩ (some draft.attributes)) db after
    else replaceIn source tenant resourceType draft db = .error (.database (.duplicate .attributeKey)) := by
  obtain ⟨ht, rfl⟩ := h.typeOf?_eq_some_iff.1 found
  obtain ⟨id, createdAt, mid, fresh, holds, empty, refiles⟩ := freshResource_ok h intact names ht tenant draft.name
  have intactMid : mid.Intact := refiles.configured.dropped.trans intact
  have result := replaceIn_of_fresh intact found fresh intactMid empty
  split
  next once =>
    rw [if_pos once] at result
    have onceThere : ((mid.entriesOf id ++ draft.attributes).map Attribute.key).Nodup := by rwa [empty]
    have filled := withEntries_refiles refiles.filed holds onceThere
    rw [empty, refiles.contents, Function.update_idem] at filled
    exact ⟨_, _, result, refiles.trans filled⟩
  next twice =>
    rw [if_neg twice] at result
    exact result

section OneAttribute

variable {key : ResourceKey} {entries : List Attribute}

theorem row_of_contents (h : db.Filed source) (stored : db.contents key = some entries) :
    ∃ t r, db.typeOf? key.resourceType = some t ∧ db.rowAt? key = some r ∧ db.Holds r.id key ∧
      db.entriesOf r.id = entries := by
  obtain ⟨r, row, same⟩ := Option.map_eq_some_iff.1 stored
  obtain ⟨hr, lies⟩ := h.rowAt?_eq_some_iff.1 row
  obtain ⟨t, typed, _⟩ := Option.bind_eq_some_iff.1 row
  exact ⟨t, r, typed, row, ⟨r, hr, rfl, lies⟩, same⟩

theorem requireResource_none (intact : db.Intact) (missing : db.contents key = none) :
    ∃ e, requireResource db key.tenant key.resourceType key.name = .error e := by
  have nowhere : db.rowAt? key = none := Option.map_eq_none_iff.1 missing
  rw [requireResource_eq intact, nowhere]
  cases db.typeOf? key.resourceType with
  | none => exact ⟨_, rfl⟩
  | some t => exact ⟨_, rfl⟩

theorem addAttributeIn_eq (h : db.Filed source) (intact : db.Intact) (stored : db.contents key = some entries)
    (entry : Attribute) :
    if entry.key ∈ entries.map Attribute.key then
      addAttributeIn source key.tenant key.resourceType key.name entry db =
        .error (.attributeExists key.name entry.key)
    else
      ∃ after, addAttributeIn source key.tenant key.resourceType key.name entry db = .ok (entry, after) ∧
        Refiles source (update db.contents key (some (entries ++ [entry]))) db after := by
  obtain ⟨t, r, typed, row, holds, rfl⟩ := row_of_contents h stored
  rw [addAttributeIn_of_row intact typed row]
  split
  next => rfl
  next new =>
    have entered := withEntries_refiles h holds (keys_append_nodup (h.keysOnce r.id) new)
    exact ⟨_, rfl, entered.contents ▸ entered.trans (touched_refiles entered.filed r.id)⟩

theorem deleteAttributeIn_eq (h : db.Filed source) (intact : db.Intact) (stored : db.contents key = some entries)
    (gone : String) :
    if gone ∈ entries.map Attribute.key then
      ∃ after, deleteAttributeIn source key.tenant key.resourceType key.name gone db = .ok ((), after) ∧
        Refiles source (update db.contents key (some (entries.filter fun a => !decide (a.key = gone)))) db after
    else
      deleteAttributeIn source key.tenant key.resourceType key.name gone db =
        .error (.attributeMissing key.name gone) := by
  obtain ⟨t, r, typed, row, holds, rfl⟩ := row_of_contents h stored
  rw [deleteAttributeIn_of_row intact typed row]
  split
  next =>
    have removed := withoutEntries_refiles h holds fun k => k = gone
    exact ⟨_, rfl, removed.contents ▸ removed.trans (touched_refiles removed.filed r.id)⟩
  next => rfl

end OneAttribute

end ConfigurationManager.Tables

end OriginRegistry
