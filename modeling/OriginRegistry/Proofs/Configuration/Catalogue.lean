import Mathlib.Data.Set.Function
import Mathlib.Order.Interval.Set.Defs
import OriginRegistry.Proofs.Configuration.Runs

/-!
# The catalogue of resources

To those who use it, the manager of resources is a map: from names to types, and from tenants, types and names to what
is held there. The rules say what is answered from such a map and what it then becomes. Ids are not determined by them,
but that of a new type or a new resource is its own from then on. Moments are read from a clock, which may stand still:
a change is told from the creation by its moment only.
-/

set_option autoImplicit false

namespace OriginRegistry

open Function (update)

/-- A resource as its users know it: whether it was changed since it was made, and not when. -/
structure Holding where
  id : String
  createdAt : Moment
  attributes : List Attribute
  modified : Bool

structure Catalogue where
  types : String → Option ResourceType
  resources : ResourceKey → Option Holding

namespace Holding

structure Shows (h : Holding) (key : ResourceKey) (r : Resource) : Prop where
  id : r.id = h.id
  name : r.name = key.name
  resourceType : r.resourceType = key.resourceType
  attributes : r.attributes = h.attributes
  createdAt : r.createdAt = h.createdAt
  modified : r.isModified = h.modified

/-- What is held once the attributes of a resource are others. Whether a change is seen depends on when the resource was
    made and on when it was changed. -/
def changed (h : Holding) (seen : Moment → Moment → Bool) (now : Moment) (attributes : List Attribute) : Holding :=
  { h with attributes, modified := seen h.createdAt now }

end Holding

namespace Catalogue

def empty : Catalogue := ⟨fun _ => none, fun _ => none⟩

def register (c : Catalogue) (t : ResourceType) : Catalogue := { c with types := update c.types t.name (some t) }

def file (c : Catalogue) (key : ResourceKey) (h : Holding) : Catalogue :=
  { c with resources := update c.resources key (some h) }

structure Unused (c : Catalogue) (id : String) : Prop where
  types : ∀ name t, c.types name = some t → t.id ≠ id
  resources : ∀ key h, c.resources key = some h → h.id ≠ id

/-- Of two moments it is seen that they differ. -/
def differ (made now : Moment) : Bool := made ≠ now

variable {c d e : Catalogue} {seen other : Moment → Moment → Bool} {clock : Moment → Prop}

/-- What a request is answered, and the catalogue from then on. `clock` are the moments at which the request is carried
    out; a replacement that is shown and the one that is kept may be of different moments. -/
inductive Answers (seen : Moment → Moment → Bool) (clock : Moment → Prop) (c : Catalogue) :
    {α : Type} → ConfigurationRequest α → Except ConfigurationError α → Catalogue → Prop
  | type {name t} (known : c.types name = some t) : Answers seen clock c (.type name) (.ok t) c
  | typeUnknown {name} (unknown : c.types name = none) :
      Answers seen clock c (.type name) (.error (.typeMissing name)) c
  | addType {draft id} (new : c.types draft.name = none) (unused : c.Unused id) :
      Answers seen clock c (.addType draft) (.ok ⟨id, draft.name, draft.description⟩)
        (c.register ⟨id, draft.name, draft.description⟩)
  | addTypeTaken {draft t} (taken : c.types draft.name = some t) :
      Answers seen clock c (.addType draft) (.error (.typeExists draft.name)) c
  | resource {tenant resourceType name t h r} (known : c.types resourceType = some t)
      (held : c.resources ⟨tenant, resourceType, name⟩ = some h) (shown : h.Shows ⟨tenant, resourceType, name⟩ r) :
      Answers seen clock c (.resource tenant resourceType name) (.ok (some r)) c
  | resourceNone {tenant resourceType name t} (known : c.types resourceType = some t)
      (missing : c.resources ⟨tenant, resourceType, name⟩ = none) :
      Answers seen clock c (.resource tenant resourceType name) (.ok none) c
  | resourceUntyped {tenant resourceType name} (unknown : c.types resourceType = none) :
      Answers seen clock c (.resource tenant resourceType name) (.error (.typeMissing resourceType)) c
  | replaceNew {tenant resourceType draft t id time r} (known : c.types resourceType = some t)
      (once : (draft.attributes.map Attribute.key).Nodup)
      (missing : c.resources ⟨tenant, resourceType, draft.name⟩ = none) (unused : c.Unused id) (read : clock time)
      (shown : (Holding.mk id time draft.attributes false).Shows ⟨tenant, resourceType, draft.name⟩ r) :
      Answers seen clock c (.replace tenant resourceType draft) (.ok r)
        (c.file ⟨tenant, resourceType, draft.name⟩ ⟨id, time, draft.attributes, false⟩)
  | replaceOld {tenant resourceType draft t h now later r} (known : c.types resourceType = some t)
      (once : (draft.attributes.map Attribute.key).Nodup)
      (held : c.resources ⟨tenant, resourceType, draft.name⟩ = some h) (read : clock now) (readLater : clock later)
      (shown : (h.changed seen now draft.attributes).Shows ⟨tenant, resourceType, draft.name⟩ r) :
      Answers seen clock c (.replace tenant resourceType draft) (.ok r)
        (c.file ⟨tenant, resourceType, draft.name⟩ (h.changed seen later draft.attributes))
  | replaceRepeated {tenant resourceType draft t} (known : c.types resourceType = some t)
      (twice : ¬ (draft.attributes.map Attribute.key).Nodup) :
      Answers seen clock c (.replace tenant resourceType draft) (.error (.database (.duplicate .attributeKey))) c
  | replaceUntyped {tenant resourceType draft} (unknown : c.types resourceType = none) :
      Answers seen clock c (.replace tenant resourceType draft) (.error (.typeMissing resourceType)) c
  | addAttribute {tenant resourceType name entry t h now} (known : c.types resourceType = some t)
      (held : c.resources ⟨tenant, resourceType, name⟩ = some h)
      (new : entry.key ∉ h.attributes.map Attribute.key) (read : clock now) :
      Answers seen clock c (.addAttribute tenant resourceType name entry) (.ok entry)
        (c.file ⟨tenant, resourceType, name⟩ (h.changed seen now (h.attributes ++ [entry])))
  | addAttributeTaken {tenant resourceType name entry t h} (known : c.types resourceType = some t)
      (held : c.resources ⟨tenant, resourceType, name⟩ = some h)
      (taken : entry.key ∈ h.attributes.map Attribute.key) :
      Answers seen clock c (.addAttribute tenant resourceType name entry) (.error (.attributeExists name entry.key)) c
  | addAttributeNowhere {tenant resourceType name entry t} (known : c.types resourceType = some t)
      (missing : c.resources ⟨tenant, resourceType, name⟩ = none) :
      Answers seen clock c (.addAttribute tenant resourceType name entry) (.error (.resourceMissing resourceType name)) c
  | addAttributeUntyped {tenant resourceType name entry} (unknown : c.types resourceType = none) :
      Answers seen clock c (.addAttribute tenant resourceType name entry) (.error (.typeMissing resourceType)) c
  | deleteAttribute {tenant resourceType name gone t h now} (known : c.types resourceType = some t)
      (held : c.resources ⟨tenant, resourceType, name⟩ = some h)
      (there : gone ∈ h.attributes.map Attribute.key) (read : clock now) :
      Answers seen clock c (.deleteAttribute tenant resourceType name gone) (.ok ())
        (c.file ⟨tenant, resourceType, name⟩ (h.changed seen now (h.attributes.filter fun a => a.key ≠ gone)))
  | deleteAttributeAbsent {tenant resourceType name gone t h} (known : c.types resourceType = some t)
      (held : c.resources ⟨tenant, resourceType, name⟩ = some h)
      (absent : gone ∉ h.attributes.map Attribute.key) :
      Answers seen clock c (.deleteAttribute tenant resourceType name gone) (.error (.attributeMissing name gone)) c
  | deleteAttributeNowhere {tenant resourceType name gone t} (known : c.types resourceType = some t)
      (missing : c.resources ⟨tenant, resourceType, name⟩ = none) :
      Answers seen clock c (.deleteAttribute tenant resourceType name gone) (.error (.resourceMissing resourceType name)) c
  | deleteAttributeUntyped {tenant resourceType name gone} (unknown : c.types resourceType = none) :
      Answers seen clock c (.deleteAttribute tenant resourceType name gone) (.error (.typeMissing resourceType)) c

/-- A type that is there stays what it is, whatever the draft says beyond its name. -/
inductive Ensures (c : Catalogue) (draft : ResourceTypeDraft) : ResourceType → Catalogue → Prop
  | kept {t} (known : c.types draft.name = some t) : Ensures c draft t c
  | made {id} (new : c.types draft.name = none) (unused : c.Unused id) :
      Ensures c draft ⟨id, draft.name, draft.description⟩ (c.register ⟨id, draft.name, draft.description⟩)

structure Sound (c : Catalogue) : Prop where
  named : ∀ name t, c.types name = some t → t.name = name
  typed : ∀ key h, c.resources key = some h → ∃ t, c.types key.resourceType = some t
  keysOnce : ∀ key h, c.resources key = some h → (h.attributes.map Attribute.key).Nodup

theorem empty_sound : empty.Sound where
  named := nofun
  typed := nofun
  keysOnce := nofun

theorem Sound.register (sound : c.Sound) (t : ResourceType) : (c.register t).Sound where
  named := by
    intro name u found
    simp only [Catalogue.register, Function.update_apply] at found
    split at found
    next same => rw [← Option.some.inj found, same]
    next => exact sound.named name u found
  typed := by
    intro key h held
    obtain ⟨u, known⟩ := sound.typed key h held
    simp only [Catalogue.register, Function.update_apply]
    split
    next => exact ⟨t, rfl⟩
    next => exact ⟨u, known⟩
  keysOnce := sound.keysOnce

theorem Sound.file (sound : c.Sound) {key : ResourceKey} {h : Holding} {t : ResourceType}
    (known : c.types key.resourceType = some t) (once : (h.attributes.map Attribute.key).Nodup) :
    (c.file key h).Sound where
  named := sound.named
  typed := by
    intro other g held
    simp only [Catalogue.file, Function.update_apply] at held
    split at held
    next same => exact ⟨t, same ▸ known⟩
    next => exact sound.typed other g held
  keysOnce := by
    intro other g held
    simp only [Catalogue.file, Function.update_apply] at held
    split at held
    next => rwa [← Option.some.inj held]
    next => exact sound.keysOnce other g held

section Answers

variable {α : Type} {request : ConfigurationRequest α} {answered : Except ConfigurationError α}

theorem Answers.sound (step : c.Answers seen clock request answered d) (sound : c.Sound) : d.Sound := by
  cases step with
  | addType new unused => exact sound.register _
  | replaceNew known once missing unused read shown => exact sound.file known once
  | replaceOld known once held read readLater shown => exact sound.file known once
  | addAttribute known held new read =>
    exact sound.file known (Database.keys_append_nodup (sound.keysOnce _ _ held) new)
  | deleteAttribute known held there read =>
    exact sound.file known ((sound.keysOnce _ _ held).sublist (List.filter_sublist.map _))
  | _ => exact sound

/-- Only what is seen of the moments that occur matters. -/
theorem Answers.seen_congr (step : c.Answers seen clock request answered d)
    (agree : ∀ key h now, c.resources key = some h → clock now → other h.createdAt now = seen h.createdAt now) :
    c.Answers other clock request answered d := by
  have alike {key h now} (held : c.resources key = some h) (read : clock now) (entries : List Attribute) :
      h.changed seen now entries = h.changed other now entries := by
    simp only [Holding.changed, agree key h now held read]
  cases step with
  | replaceOld known once held read readLater shown =>
    rw [alike held readLater]
    rw [alike held read] at shown
    exact .replaceOld known once held read readLater shown
  | addAttribute known held new read =>
    rw [alike held read]
    exact .addAttribute known held new read
  | deleteAttribute known held there read =>
    rw [alike held read]
    exact .deleteAttribute known held there read
  | _ => constructor <;> assumption

end Answers

theorem Ensures.sound {draft : ResourceTypeDraft} {t : ResourceType} (step : c.Ensures draft t d) (sound : c.Sound) :
    d.Sound := by
  cases step with
  | kept known => exact sound
  | made new unused => exact sound.register _

theorem Ensures.types_eq {draft : ResourceTypeDraft} {t : ResourceType} (step : c.Ensures draft t d) :
    d.types draft.name = some t := by
  cases step with
  | kept known => exact known
  | made new unused => exact Function.update_self ..

end Catalogue

inductive ConfigurationEvent : Type 1
  | ask {α : Type} (request : ConfigurationRequest α)
  | ensureType (draft : ResourceTypeDraft)

inductive ConfigurationExchange : Type 1
  | asked {α : Type} (request : ConfigurationRequest α) (answered : Except ConfigurationError α)
  | ensured (draft : ResourceTypeDraft) (answered : Except ConfigurationError ResourceType)

/-- The moment is one of those from the `k`-th up to the `l`-th. -/
def Source.ReadsWithin (source : Source) (k l : Nat) (time : Moment) : Prop :=
  ∃ j, k ≤ j ∧ j < l ∧ source.moment j = time

theorem Source.readsWithin (source : Source) {k j l : Nat} (first : k ≤ j) (last : j < l) :
    source.ReadsWithin k l (source.moment j) :=
  ⟨j, first, last, rfl⟩

namespace Catalogue

variable {source : Source} {c d e : Catalogue} {seen other : Moment → Moment → Bool} {clock : Moment → Prop} {k l : Nat}
  {exchange : ConfigurationExchange} {log : List ConfigurationExchange}

inductive Follows (seen : Moment → Moment → Bool) (clock : Moment → Prop) (c : Catalogue) :
    ConfigurationExchange → Catalogue → Prop
  | asked {d α} {request : ConfigurationRequest α} {answered : Except ConfigurationError α}
      (answers : c.Answers seen clock request answered d) : Follows seen clock c (.asked request answered) d
  | ensured {d draft t} (ensures : c.Ensures draft t d) : Follows seen clock c (.ensured draft (.ok t)) d

/-- A run of the manager that goes by the rules from one catalogue to another. It starts when `k` moments were drawn and
    ends when `l` were. -/
inductive Serves (source : Source) (seen : Moment → Moment → Bool) :
    Nat → Catalogue → List ConfigurationExchange → Nat → Catalogue → Prop
  | nil (k : Nat) (c : Catalogue) : Serves source seen k c [] k c
  | cons {k l m c d e exchange log} (first : Follows seen (source.ReadsWithin k l) c exchange d) (order : k ≤ l)
      (rest : Serves source seen l d log m e) : Serves source seen k c (exchange :: log) m e

theorem Follows.sound (step : c.Follows seen clock exchange d) (sound : c.Sound) : d.Sound := by
  cases step with
  | asked answers => exact answers.sound sound
  | ensured ensures => exact ensures.sound sound

theorem Serves.sound (served : Serves source seen k c log l d) (sound : c.Sound) : d.Sound := by
  induction served with
  | nil => exact sound
  | cons first _ _ ih => exact ih (first.sound sound)

theorem Serves.order (served : Serves source seen k c log l d) : k ≤ l := by
  induction served with
  | nil => exact Nat.le_refl _
  | cons _ order _ ih => exact Nat.le_trans order ih

def Dated (source : Source) (k : Nat) (c : Catalogue) : Prop :=
  ∀ key h, c.resources key = some h → source.ReadsWithin 0 k h.createdAt

theorem Dated.mono (dated : c.Dated source k) (order : k ≤ l) : c.Dated source l := by
  intro key h held
  obtain ⟨j, least, before, read⟩ := dated key h held
  exact ⟨j, least, Nat.lt_of_lt_of_le before order, read⟩

theorem Dated.file (dated : c.Dated source k) {key : ResourceKey} {h : Holding}
    (read : source.ReadsWithin 0 k h.createdAt) : (c.file key h).Dated source k := by
  intro place g held
  simp only [Catalogue.file, Function.update_apply] at held
  split at held
  next => exact Option.some.inj held ▸ read
  next => exact dated place g held

theorem Dated.change (dated : c.Dated source k) {key : ResourceKey} {h : Holding} (held : c.resources key = some h)
    (now : Moment) (entries : List Attribute) : (c.file key (h.changed seen now entries)).Dated source k := by
  have read : source.ReadsWithin 0 k (h.changed seen now entries).createdAt := dated key h held
  exact dated.file read

theorem Follows.dated (step : c.Follows seen (source.ReadsWithin k l) exchange d) (order : k ≤ l)
    (dated : c.Dated source k) : d.Dated source l := by
  have before := dated.mono order
  cases step with
  | ensured ensures => cases ensures <;> exact before
  | asked answers =>
    cases answers with
    | replaceNew known once missing unused read shown =>
      obtain ⟨j, _, early, same⟩ := read
      exact before.file ⟨j, Nat.zero_le j, early, same⟩
    | replaceOld known once held read readLater shown => exact before.change held _ _
    | addAttribute known held new read => exact before.change held _ _
    | deleteAttribute known held there read => exact before.change held _ _
    | _ => exact before

theorem Follows.seen_congr (step : c.Follows seen clock exchange d)
    (agree : ∀ key h now, c.resources key = some h → clock now → other h.createdAt now = seen h.createdAt now) :
    c.Follows other clock exchange d := by
  cases step with
  | asked answers => exact .asked (answers.seen_congr agree)
  | ensured ensures => exact .ensured ensures

theorem Serves.seen_congr (served : Serves source seen k c log l d) (dated : c.Dated source k)
    (agree : ∀ i j, i < j → j < l →
      other (source.moment i) (source.moment j) = seen (source.moment i) (source.moment j)) :
    Serves source other k c log l d := by
  induction served with
  | nil => exact .nil _ _
  | cons first order rest ih =>
    refine .cons (first.seen_congr fun key h now held read => ?_) order (ih (first.dated order dated) agree)
    -- What is held was made in an earlier window than that of the request.
    obtain ⟨i, _, early, made⟩ := dated key h held
    obtain ⟨j, late, within, changed⟩ := read
    rw [← made, ← changed]
    exact agree i j (Nat.lt_of_lt_of_le early late) (Nat.lt_of_lt_of_le within rest.order)

/-- While no moment comes twice, every change is seen. -/
theorem Serves.all_seen (served : Serves source differ 0 .empty log l d)
    (apart : Set.InjOn source.moment (Set.Iio l)) : Serves source (fun _ _ => true) 0 .empty log l d := by
  refine served.seen_congr nofun fun i j before within => ?_
  have ne : source.moment i ≠ source.moment j := fun same =>
    Nat.ne_of_lt before (apart (Set.mem_Iio.2 (Nat.lt_trans before within)) (Set.mem_Iio.2 within) same)
  exact (decide_eq_true ne).symm

end Catalogue

namespace ConfigurationEvent

open ConfigurationManager.Tables (manager)

def run (source : Source) : ConfigurationEvent → Pool → ConfigurationExchange × Pool
  | .ask request, p =>
    let (answered, q) := ((manager source).answer request).run p
    (.asked request answered, q)
  | .ensureType draft, p =>
    let (answered, q) := ((manager source).ensureType draft).run p
    (.ensured draft answered, q)

def runAll (source : Source) : List ConfigurationEvent → Pool → List ConfigurationExchange × Pool
  | [], p => ([], p)
  | event :: events, p =>
    let (exchange, q) := event.run source p
    let (log, r) := runAll source events q
    (exchange :: log, r)

end ConfigurationEvent

end OriginRegistry
