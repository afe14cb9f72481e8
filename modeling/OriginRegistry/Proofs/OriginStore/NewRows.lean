import OriginRegistry.Proofs.Distinct
import OriginRegistry.Proofs.OriginStore.Effects

set_option autoImplicit false

namespace OriginRegistry

def unheld (texts origins : List Origin) : List Origin := distinct (origins.filter fun origin => !texts.contains origin)

section Unheld

variable {texts origins : List Origin} {origin : Origin}

theorem unheld_held (held : origin ∈ texts) (origins : List Origin) :
    unheld texts (origin :: origins) = unheld texts origins := by
  simp [unheld, held]

theorem unheld_new (new : origin ∉ texts) (origins : List Origin) :
    unheld texts (origin :: origins) = origin :: unheld (texts ++ [origin]) origins := by
  have kept : (!texts.contains origin) = true := by simpa using new
  rw [unheld, unheld, distinct_eq_eraseDups, distinct_eq_eraseDups, List.filter_cons, if_pos kept, List.eraseDups_cons,
    List.filter_filter]
  refine congrArg (fun xs => origin :: List.eraseDups xs) (List.filter_congr fun x _ => ?_)
  simp [Bool.and_comm, beq_eq_decide]

end Unheld

namespace Database

def newRows (source : Source) (db : Database) (tenant : TenantId) (level : Bool) (origins : List Origin) :
    List OriginRow :=
  origins.mapIdx fun i origin =>
    ⟨⟨Int64.ofNat (db.lastOrigin + 1 + i)⟩, tenant, origin, ⟨source.name (db.drawn + i)⟩, level⟩

def enterAll (source : Source) (db : Database) (tenant : TenantId) (level : Bool) (origins : List Origin) : Database :=
  { db with
    origins := db.origins ++ db.newRows source tenant level origins
    lastOrigin := db.lastOrigin + origins.length
    drawn := db.drawn + origins.length }

def textsOf (db : Database) (tenant : TenantId) : List Origin := (db.originsOf tenant).map OriginRow.origin

/-- No name that is still to be drawn is that of a row. -/
def FreshNames (source : Source) (db : Database) : Prop :=
  ∀ o ∈ db.origins, ∀ k, db.drawn ≤ k → o.externalId ≠ ⟨source.name k⟩

/-- Tables in order, with names and keys for the texts that are to be entered. -/
structure Roomy (source : Source) (db : Database) (tenant : TenantId) (origins : List Origin) : Prop where
  consistent : db.Consistent
  fresh : db.FreshNames source
  room : db.lastOrigin + (unheld (db.textsOf tenant) origins).length ≤ largestKey

variable {source : Source} {db : Database} {tenant : TenantId} {origin : Origin} {origins : List Origin} {level : Bool}

theorem enterAll_nil : db.enterAll source tenant level [] = db := by
  simp [enterAll, newRows]

theorem enterAll_cons :
    db.enterAll source tenant level (origin :: origins) =
      (db.enter source tenant origin level).enterAll source tenant level origins := by
  simp only [enterAll, newRows, enter, nextRow, List.mapIdx_cons, List.append_assoc, List.singleton_append,
    List.length_cons, Nat.add_zero, Nat.add_assoc, Nat.add_comm 1]

theorem newRows_origins : (db.newRows source tenant level origins).map OriginRow.origin = origins := by
  refine List.ext_getElem (by simp [newRows]) fun i _ _ => ?_
  simp only [newRows, List.getElem_map, List.getElem_mapIdx]

theorem newRows_keys (room : db.lastOrigin + origins.length ≤ largestKey) :
    (db.newRows source tenant level origins).map (fun o => o.id.val.toInt) =
      (List.range origins.length).map fun i : Nat => (db.lastOrigin : Int) + 1 + i := by
  refine List.ext_getElem (by simp [newRows]) fun i hi _ => ?_
  simp only [newRows, List.length_map, List.length_mapIdx] at hi
  unfold largestKey at room
  simp only [newRows, List.getElem_map, List.getElem_mapIdx, List.getElem_range]
  rw [Int64.toInt_ofNat_of_lt (by omega)]
  push_cast
  rfl

theorem newRows_externalIds : (db.newRows source tenant level origins).map OriginRow.externalId =
    (List.range origins.length).map fun i => ⟨source.name (db.drawn + i)⟩ := by
  refine List.ext_getElem (by simp [newRows]) fun i _ _ => ?_
  simp only [newRows, List.getElem_map, List.getElem_mapIdx, List.getElem_range]

theorem mem_newRows {o : OriginRow} (ho : o ∈ db.newRows source tenant level origins) :
    o.tenant = tenant ∧ o.tenantLevel = level ∧ ∃ i < origins.length,
      o.id = ⟨Int64.ofNat (db.lastOrigin + 1 + i)⟩ ∧ o.externalId = ⟨source.name (db.drawn + i)⟩ := by
  obtain ⟨i, inside, rfl⟩ := List.mem_mapIdx.1 ho
  exact ⟨rfl, rfl, i, inside, rfl, rfl⟩

structure BrandNew (db : Database) (rows : List OriginRow) : Prop where
  keys : rows.map (fun o => o.id.val.toInt) = (List.range rows.length).map fun i : Nat => (db.lastOrigin : Int) + 1 + i
  names : (rows.map OriginRow.externalId).Nodup
  unnamed : ∀ o ∈ rows, ∀ r ∈ db.origins, r.externalId ≠ o.externalId
  unused : ∀ o ∈ rows, db.isUsed o.id = false

theorem newRows_brandNew (names : Function.Injective source.name) (h : db.Consistent) (fresh : db.FreshNames source)
    (room : db.lastOrigin + origins.length ≤ largestKey) : db.BrandNew (db.newRows source tenant level origins) where
  keys := by
    rw [newRows_keys room]
    simp [newRows]
  names := by
    rw [newRows_externalIds]
    refine List.nodup_range.map fun i j same => ?_
    have drawn := names (ExternalId.mk.inj same)
    omega
  unnamed := by
    intro o ho r hr same
    obtain ⟨_, _, i, _, _, name⟩ := mem_newRows ho
    exact fresh r hr (db.drawn + i) (Nat.le_add_right _ _) (same.trans name)
  unused := by
    intro o ho
    obtain ⟨_, _, i, inside, key, _⟩ := mem_newRows ho
    have above : (db.lastOrigin : Int) < o.id.val.toInt := by
      unfold largestKey at room
      rw [key, Int64.toInt_ofNat_of_lt (by omega)]
      omega
    simpa [isUsed] using h.unlinked_of_above above

theorem originsOf_enterAll :
    (db.enterAll source tenant level origins).originsOf tenant =
      db.originsOf tenant ++ db.newRows source tenant level origins := by
  have own : (db.newRows source tenant level origins).filter (fun o => o.tenant = tenant) =
      db.newRows source tenant level origins :=
    List.filter_eq_self.2 fun o ho => decide_eq_true (mem_newRows ho).1
  rw [originsOf, enterAll, List.filter_append, own, originsOf]

theorem textsOf_enter :
    (db.enter source tenant origin level).textsOf tenant = db.textsOf tenant ++ [origin] := by
  simp [textsOf, originsOf, enter, nextRow]

theorem textsOf_relevel (raise : OriginRow → Bool) : (db.relevel raise).textsOf tenant = db.textsOf tenant := by
  simp [textsOf, originsOf, relevel, List.filter_map, Function.comp_def]

theorem mem_textsOf : origin ∈ db.textsOf tenant ↔ ∃ o ∈ db.origins, o.tenant = tenant ∧ o.origin = origin := by
  simp [textsOf, originsOf, and_assoc]

theorem Enterable.new (can : db.Enterable source tenant origin) : origin ∉ db.textsOf tenant := by
  intro held
  obtain ⟨o, ho, own, text⟩ := mem_textsOf.1 held
  exact can.newText o ho own text

theorem FreshNames.relevel (h : db.FreshNames source) (raise : OriginRow → Bool) :
    (db.relevel raise).FreshNames source := by
  intro o ho
  obtain ⟨r, hr, rfl⟩ := mem_relevel.1 ho
  exact h r hr

theorem FreshNames.sweep (h : db.FreshNames source) (of : TenantId) : (db.sweep of).FreshNames source :=
  fun o ho => h o (mem_sweep.1 ho).1

theorem FreshNames.enter (names : Function.Injective source.name) (h : db.FreshNames source) :
    (db.enter source tenant origin level).FreshNames source := by
  intro o ho k drawn same
  change db.drawn + 1 ≤ k at drawn
  rcases mem_enter.1 ho with ho | rfl
  · exact h o ho k (by omega) same
  · have now := names (ExternalId.mk.inj same)
    omega

theorem Edits.freshNames {w : Warrant} {after : Database} (names : Function.Injective source.name)
    (edits : Edits source w db after) (h : db.FreshNames source) : after.FreshNames source := by
  induction edits with
  | refl => exact h
  | tail _ edit ih =>
    cases edit with
    | relevel raise own => exact ih.relevel raise
    | unlink drop own => exact ih
    | sweep => exact ih.sweep _
    | enter origin level allowed can => exact ih.enter names
    | link r application member own allowed can => exact ih

theorem Roomy.held (h : Roomy source db tenant (origin :: origins)) (held : origin ∈ db.textsOf tenant) :
    Roomy source db tenant origins where
  consistent := h.consistent
  fresh := h.fresh
  room := by
    have room := h.room
    rwa [unheld_held held] at room

theorem Roomy.enterable (h : Roomy source db tenant (origin :: origins)) (new : origin ∉ db.textsOf tenant) :
    db.Enterable source tenant origin where
  room := by
    have room := h.room
    rw [unheld_new new, List.length_cons] at room
    omega
  newText := fun o ho own same => new (mem_textsOf.2 ⟨o, ho, own, same⟩)
  newName := fun o ho => h.fresh o ho db.drawn (Nat.le_refl _)

theorem Roomy.enter (names : Function.Injective source.name) (h : Roomy source db tenant (origin :: origins))
    (new : origin ∉ db.textsOf tenant) (level : Bool) :
    Roomy source (db.enter source tenant origin level) tenant origins where
  consistent := h.consistent.enter (h.enterable new) level
  fresh := h.fresh.enter names
  room := by
    have room := h.room
    rw [unheld_new new, List.length_cons] at room
    rw [textsOf_enter]
    change db.lastOrigin + 1 + _ ≤ _
    omega

/-- Of the first tenant's origins one is of tenant level, one dangles, and one is used. An application uses an origin
    of the other tenant, and keys were given out that are no longer there. -/
def mixed : Database :=
  { tenants := [⟨⟨1⟩, "a.com"⟩, ⟨⟨2⟩, "b.com"⟩]
    applications := [⟨⟨1⟩, ⟨⟨1⟩, "app", "App"⟩⟩, ⟨⟨1⟩, ⟨⟨2⟩, "sub", "Sub"⟩⟩]
    lastApplication := 2
    origins := [⟨⟨1⟩, ⟨1⟩, ⟨"http://a"⟩, ⟨""⟩, true⟩, ⟨⟨2⟩, ⟨1⟩, ⟨"http://b"⟩, ⟨"|"⟩, false⟩,
      ⟨⟨3⟩, ⟨1⟩, ⟨"http://c"⟩, ⟨"||"⟩, false⟩, ⟨⟨5⟩, ⟨2⟩, ⟨"http://a"⟩, ⟨"|||"⟩, false⟩]
    lastOrigin := 7
    associations := [⟨⟨1⟩, ⟨1⟩⟩, ⟨⟨3⟩, ⟨1⟩⟩, ⟨⟨5⟩, ⟨1⟩⟩, ⟨⟨1⟩, ⟨2⟩⟩]
    drawn := 4 }

theorem mixed_consistent : mixed.Consistent where
  tenantIds := by decide
  domains := by decide
  applicationIds := by decide
  resourceIds := by decide
  names := by decide
  owners := by decide
  ascending := by decide
  bounded := by decide
  texts := by decide
  externalIds := by decide
  pairs := by decide
  linkedOrigin := by decide
  linkedApplication := by decide
  intact := rfl

theorem mixed_freshNames : mixed.FreshNames .strokes := by
  intro o ho k drawn same
  have short : ∀ o ∈ mixed.origins, o.externalId.val.length < 4 := by decide
  have long : (Source.strokes.name k).length = k := by simp [Source.strokes]
  have here := short o ho
  rw [same, long] at here
  exact absurd drawn (Nat.not_le_of_lt here)

end Database

end OriginRegistry
