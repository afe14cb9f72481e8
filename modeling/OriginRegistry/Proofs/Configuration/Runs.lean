import OriginRegistry.Proofs.Configuration.Requests

set_option autoImplicit false

namespace OriginRegistry

open Function (update)

namespace Pool

/-- Open connections to tables in order, in which all names were drawn. -/
structure Orderly (source : Source) (p : Pool) : Prop extends p.Healthy where
  named : p.database.Named source
  filed : p.database.Filed source

def Refiles (source : Source) (now : ResourceKey → Option (List Attribute)) (p q : Pool) : Prop :=
  q.isOpen = p.isOpen ∧ Database.Refiles source now p.database q.database

variable {source : Source} {now later : ResourceKey → Option (List Attribute)} {p q r : Pool}

theorem Refiles.refl (h : p.Orderly source) : p.Refiles source p.database.contents p := ⟨rfl, .refl h.filed⟩

theorem Refiles.trans (first : p.Refiles source now q) (second : q.Refiles source later r) :
    p.Refiles source later r :=
  ⟨second.1.trans first.1, first.2.trans second.2⟩

theorem Refiles.contents_eq (step : p.Refiles source now q) : q.database.contents = now := step.2.contents

theorem Refiles.orderly (step : p.Refiles source now q) (h : p.Orderly source) : q.Orderly source where
  isOpen := step.1.trans h.isOpen
  consistent := step.2.configured.consistent h.consistent
  named := h.named.congr step.2.configured.origins step.2.configured.drawn
  filed := step.2.filed

theorem Orderly.empty (source : Source) : Pool.empty.Orderly source where
  toHealthy := Pool.Healthy.empty
  named := nofun
  filed := Database.empty_filed source

theorem Orderly.registers (h : p.Orderly source) (step : Pool.Registers p q) :
    q.Orderly source ∧ q.database.contents = p.database.contents := by
  have drawn : p.database.drawn ≤ q.database.drawn := Nat.le_of_eq step.2.drawn.symm
  have healthy := h.toHealthy.registers step
  have named := h.named.congr step.2.origins.1 drawn
  obtain ⟨after, isOpen⟩ := q
  obtain ⟨_, registers⟩ := step
  refine ⟨⟨healthy, named, ?_⟩, funext fun key => ?_⟩
  · cases registers <;> exact h.filed.congr rfl rfl rfl drawn
  · cases registers <;> exact Database.contents_congr rfl rfl rfl

end Pool

namespace ConfigurationManager.Tables

open Database

variable {source : Source} {p : Pool}

theorem run_type (h : p.Healthy) (name : String) :
    ((manager source).answer (.type name)).run p =
      (match p.database.typeOf? name with
        | some t => .ok t
        | none => .error (.typeMissing name), p) := by
  rw [h.eq_open]
  exact congrArg (·, _) (requireType_eq h.consistent.intact name)

theorem run_ensureType (h : p.Orderly source) (names : Function.Injective source.name) (draft : ResourceTypeDraft) :
    ∃ t q, ((manager source).ensureType draft).run p = (.ok t, q) ∧ p.Refiles source p.database.contents q ∧
      (q.database.typeOf? draft.name).isSome = true ∧ ((p.database.typeOf? draft.name).isSome = true → q = p) := by
  have asked : ((manager source).answer (.type draft.name)).run p = _ := run_type h.toHealthy draft.name
  simp only [ensureType, ExceptT.run_mk]
  cases found : p.database.typeOf? draft.name with
  | some t =>
    rw [found] at asked
    rw [asked]
    exact ⟨t, p, rfl, .refl h, by rw [found, Option.isSome_some], fun _ => rfl⟩
  | none =>
    have made : addTypeIn source draft p.database =
        .ok (p.database.nextType source draft, p.database.withType source draft) := by
      rw [addTypeIn_eq h.filed h.consistent.intact names, found]
    have step := withType_refiles h.filed names found
    have ran : ((manager source).answer (.addType draft)).run p = _ := h.toHealthy.run_transact_ok made
    have there : (p.database.withType source draft).typeOf? draft.name = some (p.database.nextType source draft) :=
      step.filed.typeOf?_eq_some_iff.2 ⟨mem_withType.2 (.inr rfl), rfl⟩
    rw [found] at asked
    rw [asked]
    exact ⟨_, _, ran, ⟨h.isOpen.symm, step⟩, by rw [there, Option.isSome_some], by rintro ⟨⟩⟩

theorem run_resource? (h : p.Orderly source) (key : ResourceKey) :
    ∃ found : Option Resource,
      ((manager source).resource? key.tenant key.resourceType key.name).run p = (.ok found, p) ∧
        found.map Resource.attributes = p.database.contents key := by
  have asked : ((manager source).answer (.resource key.tenant key.resourceType key.name)).run p =
      (resourceIn key.tenant key.resourceType key.name p.database, p) := by
    rw [h.eq_open]
    rfl
  refine ⟨(p.database.rowAt? key).map (resourceOf p.database key.resourceType), ?_, Option.map_map ..⟩
  simp only [resource?, ExceptT.run_mk]
  rw [asked, resourceIn_eq h.consistent.intact]
  cases found : p.database.typeOf? key.resourceType with
  | some t => rfl
  | none =>
    have nowhere : p.database.rowAt? key = none := by rw [rowAt?, found, Option.bind_none]
    rw [nowhere]
    rfl

theorem run_replace (h : p.Orderly source) (names : Function.Injective source.name) {resourceType : String}
    (known : (p.database.typeOf? resourceType).isSome = true) (tenant : TenantId) (draft : ResourceDraft) :
    if (draft.attributes.map Attribute.key).Nodup then
      ∃ made q, ((manager source).answer (.replace tenant resourceType draft)).run p = (.ok made, q) ∧
        p.Refiles source (update p.database.contents ⟨tenant, resourceType, draft.name⟩ (some draft.attributes)) q
    else
      ((manager source).answer (.replace tenant resourceType draft)).run p =
        (.error (.database (.duplicate .attributeKey)), p) := by
  obtain ⟨t, found⟩ := Option.isSome_iff_exists.1 known
  have replaced := replaceIn_eq h.filed h.consistent.intact names found tenant draft
  split
  next once =>
    rw [if_pos once] at replaced
    obtain ⟨made, after, ok, step⟩ := replaced
    exact ⟨made, ⟨after, true⟩, h.toHealthy.run_transact_ok ok, h.isOpen.symm, step⟩
  next twice =>
    rw [if_neg twice] at replaced
    exact h.toHealthy.run_transact_error replaced

section OneAttribute

variable {key : ResourceKey} {entries : List Attribute}

theorem run_addAttribute (h : p.Orderly source) (stored : p.database.contents key = some entries)
    (entry : Attribute) :
    if entry.key ∈ entries.map Attribute.key then
      ((manager source).answer (.addAttribute key.tenant key.resourceType key.name entry)).run p =
        (.error (.attributeExists key.name entry.key), p)
    else
      ∃ q, ((manager source).answer (.addAttribute key.tenant key.resourceType key.name entry)).run p =
          (.ok entry, q) ∧
        p.Refiles source (update p.database.contents key (some (entries ++ [entry]))) q := by
  have added := addAttributeIn_eq h.filed h.consistent.intact stored entry
  split
  next taken =>
    rw [if_pos taken] at added
    exact h.toHealthy.run_transact_error added
  next new =>
    rw [if_neg new] at added
    obtain ⟨after, ok, step⟩ := added
    exact ⟨⟨after, true⟩, h.toHealthy.run_transact_ok ok, h.isOpen.symm, step⟩

theorem run_deleteAttribute (h : p.Orderly source) (stored : p.database.contents key = some entries) (gone : String) :
    if gone ∈ entries.map Attribute.key then
      ∃ q, ((manager source).answer (.deleteAttribute key.tenant key.resourceType key.name gone)).run p =
          (.ok (), q) ∧
        p.Refiles source (update p.database.contents key (some (entries.filter fun a => !decide (a.key = gone)))) q
    else
      ((manager source).answer (.deleteAttribute key.tenant key.resourceType key.name gone)).run p =
        (.error (.attributeMissing key.name gone), p) := by
  have deleted := deleteAttributeIn_eq h.filed h.consistent.intact stored gone
  split
  next taken =>
    rw [if_pos taken] at deleted
    obtain ⟨after, ok, step⟩ := deleted
    exact ⟨⟨after, true⟩, h.toHealthy.run_transact_ok ok, h.isOpen.symm, step⟩
  next missing =>
    rw [if_neg missing] at deleted
    exact h.toHealthy.run_transact_error deleted

end OneAttribute

end ConfigurationManager.Tables

def ConfigurationRequest.target? {α : Type} : ConfigurationRequest α → Option ResourceKey
  | .replace tenant resourceType draft => some ⟨tenant, resourceType, draft.name⟩
  | .addAttribute tenant resourceType name _ => some ⟨tenant, resourceType, name⟩
  | .deleteAttribute tenant resourceType name _ => some ⟨tenant, resourceType, name⟩
  | _ => none

def Database.Writes (source : Source) (written : Option ResourceKey) (db after : Database) : Prop :=
  ∃ now, Refiles source now db after ∧ ∀ key, written ≠ some key → now key = db.contents key

def Pool.Writes (source : Source) (written : Option ResourceKey) (p q : Pool) : Prop :=
  q.isOpen = p.isOpen ∧ Database.Writes source written p.database q.database

section Writes

open ConfigurationManager.Tables

variable {source : Source} {p q : Pool} {db after : Database} {written : Option ResourceKey}

theorem Database.Refiles.writes {key : ResourceKey} {entries : Option (List Attribute)}
    (step : Refiles source (update db.contents key entries) db after) : db.Writes source (some key) after :=
  ⟨_, step, fun _ elsewhere => Function.update_of_ne (fun same => elsewhere (congrArg some same.symm)) ..⟩

theorem Pool.Writes.nothing (h : p.Orderly source) (written : Option ResourceKey) : p.Writes source written p :=
  ⟨rfl, _, .refl h.filed, fun _ _ => rfl⟩

theorem Pool.Writes.orderly (step : p.Writes source written q) (h : p.Orderly source) : q.Orderly source := by
  obtain ⟨same, now, refiles, _⟩ := step
  exact Refiles.orderly ⟨same, refiles⟩ h

theorem Pool.Writes.contents_eq (step : p.Writes source written q) {key : ResourceKey} (elsewhere : written ≠ some key) :
    q.database.contents key = p.database.contents key := by
  obtain ⟨_, now, refiles, others⟩ := step
  rw [refiles.contents, others key elsewhere]

theorem transact_writes {ε α : Type} {refuse : DatabaseError → ε} {change : Database → Except ε (α × Database)}
    (h : p.Orderly source)
    (changed : ∀ x after, change p.database = .ok (x, after) → p.database.Writes source written after) :
    p.Writes source written ((Pool.transact refuse change).run p).2 := by
  cases made : change p.database with
  | error e =>
    rw [h.toHealthy.run_transact_error made]
    exact .nothing h written
  | ok result =>
    rw [h.toHealthy.run_transact_ok made]
    exact ⟨h.isOpen.symm, changed _ _ made⟩

/-- What cannot be required is not there to be changed, so that nothing is written then. -/
theorem manager_writes (h : p.Orderly source) (names : Function.Injective source.name) {α : Type}
    (request : ConfigurationRequest α) :
    p.Writes source request.target? (((manager source).answer request).run p).2 := by
  have intact := h.consistent.intact
  cases request with
  | type name => exact .nothing h _
  | resource tenant resourceType name => exact .nothing h _
  | addType draft =>
    refine transact_writes h fun made after ok => ?_
    rw [addTypeIn_eq h.filed intact names] at ok
    cases found : p.database.typeOf? draft.name with
    | some t =>
      rw [found] at ok
      cases ok
    | none =>
      rw [found] at ok
      cases ok
      exact ⟨_, Database.withType_refiles h.filed names found, fun _ _ => rfl⟩
  | replace tenant resourceType draft =>
    refine transact_writes h fun made after ok => ?_
    cases known : p.database.typeOf? resourceType with
    | none =>
      rw [replaceIn, requireType_eq intact, known] at ok
      cases ok
    | some t =>
      have replaced := replaceIn_eq h.filed intact names known tenant draft
      split at replaced
      · obtain ⟨_, _, done, step⟩ := replaced
        rw [ok] at done
        cases done
        exact step.writes
      · rw [ok] at replaced
        cases replaced
  | addAttribute tenant resourceType name entry =>
    refine transact_writes h fun made after ok => ?_
    cases stored : p.database.contents ⟨tenant, resourceType, name⟩ with
    | none =>
      obtain ⟨e, missing⟩ := requireResource_none intact stored
      rw [addAttributeIn, missing] at ok
      cases ok
    | some entries =>
      have added := addAttributeIn_eq h.filed intact stored entry
      split at added
      · rw [ok] at added
        cases added
      · obtain ⟨_, done, step⟩ := added
        rw [ok] at done
        cases done
        exact step.writes
  | deleteAttribute tenant resourceType name gone =>
    refine transact_writes h fun made after ok => ?_
    cases stored : p.database.contents ⟨tenant, resourceType, name⟩ with
    | none =>
      obtain ⟨e, missing⟩ := requireResource_none intact stored
      rw [deleteAttributeIn, missing] at ok
      cases ok
    | some entries =>
      have deleted := deleteAttributeIn_eq h.filed intact stored gone
      split at deleted
      · obtain ⟨_, done, step⟩ := deleted
        rw [ok] at done
        cases done
        exact step.writes
      · rw [ok] at deleted
        cases deleted

end Writes

end OriginRegistry
