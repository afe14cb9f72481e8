import OriginRegistry.Proofs.Json.Records

set_option autoImplicit false

namespace OriginRegistry.Json

section Order

variable {name : String} {value : Json} {members others : List (String × Json)}

theorem insertMember_perm (new : ∀ m ∈ members, m.1 ≠ name) :
    (insertMember name value members).Perm ((name, value) :: members) := by
  induction members with
  | nil => exact List.Perm.refl _
  | cons m members ih =>
    have apart : name ≠ m.1 := (new m List.mem_cons_self).symm
    have later := ih fun n hn => new n (List.mem_cons_of_mem m hn)
    rw [insertMember, if_neg apart]
    split
    · exact List.Perm.refl _
    · exact (later.cons m).trans (List.Perm.swap ..)

theorem insertMember_ascending (ascending : members.Pairwise fun m n => m.1 < n.1) (new : ∀ m ∈ members, m.1 ≠ name) :
    (insertMember name value members).Pairwise fun m n => m.1 < n.1 := by
  induction members with
  | nil => exact List.pairwise_singleton ..
  | cons m members ih =>
    obtain ⟨first, rest⟩ := List.pairwise_cons.1 ascending
    have apart : name ≠ m.1 := (new m List.mem_cons_self).symm
    have newLater : ∀ n ∈ members, n.1 ≠ name := fun n hn => new n (List.mem_cons_of_mem m hn)
    rw [insertMember, if_neg apart]
    split
    · rename_i before
      refine List.pairwise_cons.2 ⟨fun n hn => ?_, ascending⟩
      rcases List.mem_cons.1 hn with rfl | hn
      · exact before
      · exact String.lt_trans before (first n hn)
    · rename_i behind
      refine List.pairwise_cons.2 ⟨fun n hn => ?_, ih rest newLater⟩
      rcases List.mem_cons.1 ((insertMember_perm newLater).mem_iff.1 hn) with rfl | hn
      · exact Std.lt_of_le_of_ne (String.not_lt.1 behind) apart.symm
      · exact first n hn

theorem foldl_insertMember (ascending : others.Pairwise fun m n => m.1 < n.1)
    (once : ((others ++ members).map Prod.fst).Nodup) :
    let sorted := members.foldl (fun sorted m => insertMember m.1 m.2 sorted) others
    sorted.Perm (others ++ members) ∧ sorted.Pairwise fun m n => m.1 < n.1 := by
  induction members generalizing others with
  | nil => exact ⟨by rw [List.append_nil]; exact List.Perm.refl _, ascending⟩
  | cons m members ih =>
    have new : ∀ n ∈ others, n.1 ≠ m.1 := by
      intro n hn
      rw [List.map_append] at once
      exact (List.nodup_append.1 once).2.2 n.1 (List.mem_map_of_mem hn) m.1 (List.mem_map_of_mem List.mem_cons_self)
    have moved : (insertMember m.1 m.2 others ++ members).Perm (others ++ m :: members) :=
      ((insertMember_perm new).append_right members).trans List.perm_middle.symm
    obtain ⟨same, sorted⟩ := ih (insertMember_ascending ascending new) ((moved.map Prod.fst).nodup_iff.2 once)
    exact ⟨same.trans moved, sorted⟩

theorem sortMembers_perm (once : (members.map Prod.fst).Nodup) : (sortMembers members).Perm members :=
  (foldl_insertMember List.Pairwise.nil once).1

theorem sortMembers_ascending (once : (members.map Prod.fst).Nodup) :
    (sortMembers members).Pairwise fun m n => m.1 < n.1 :=
  (foldl_insertMember List.Pairwise.nil once).2

theorem eq_of_ascending (first : members.Pairwise fun m n => m.1 < n.1) (second : others.Pairwise fun m n => m.1 < n.1)
    (same : members.Perm others) : members = others :=
  List.Perm.eq_of_pairwise (fun _ _ _ _ there back => absurd there (String.lt_asymm back)) first second same

end Order

section Lookup

variable {β : Type} {name : String} {value : β} {members others : List (String × β)}

theorem lookup_cons_eq (name : String) (m : String × β) (members : List (String × β)) :
    (m :: members).lookup name = if name = m.1 then some m.2 else members.lookup name := by
  by_cases same : name = m.1
  · rw [if_pos same, List.lookup_cons, beq_iff_eq.2 same]
  · rw [if_neg same, List.lookup_cons, beq_eq_false_iff_ne.2 same]

theorem lookup_eq_some_iff (once : (members.map Prod.fst).Nodup) :
    members.lookup name = some value ↔ (name, value) ∈ members := by
  induction members with
  | nil => exact ⟨nofun, nofun⟩
  | cons m members ih =>
    obtain ⟨new, once⟩ := List.nodup_cons.1 once
    by_cases same : name = m.1
    · rw [lookup_cons_eq, if_pos same, Option.some.injEq, List.mem_cons]
      constructor
      · rintro rfl
        exact .inl (Prod.ext same rfl)
      · rintro (rfl | later)
        · rfl
        · exact absurd (same ▸ List.mem_map_of_mem later) new
    · rw [lookup_cons_eq, if_neg same, ih once, List.mem_cons,
        or_iff_right fun here => same (congrArg Prod.fst here)]

theorem lookup_congr (once : (members.map Prod.fst).Nodup) (same : members.Perm others) (name : String) :
    members.lookup name = others.lookup name := by
  ext value
  rw [lookup_eq_some_iff once, lookup_eq_some_iff ((same.map Prod.fst).nodup_iff.1 once), same.mem_iff]

theorem isSome_lookup_iff : (members.lookup name).isSome = true ↔ name ∈ members.map Prod.fst := by
  rw [List.lookup_isSome_iff, List.mem_map]
  exact exists_congr fun m => and_congr_right fun _ => beq_iff_eq.trans eq_comm

theorem lookup_filter {keep : String → Bool} (kept : keep name = true) (members : List (String × β)) :
    (members.filter fun m => keep m.1).lookup name = members.lookup name := by
  induction members with
  | nil => rfl
  | cons m members ih =>
    by_cases same : name = m.1
    · rw [List.filter_cons_of_pos (same ▸ kept), lookup_cons_eq, lookup_cons_eq, if_pos same, if_pos same]
    · rw [lookup_cons_eq, if_neg same, List.filter_cons]
      split
      · rw [lookup_cons_eq, if_neg same, ih]
      · exact ih

end Lookup

theorem boolean?_eq_some_iff {v : Json} {b : Bool} : v.boolean? = some b ↔ v = .boolean b := by
  cases v <;> simp [boolean?]

theorem int64?_eq_some_iff {v : Json} {n : Int64} : v.int64? = some n ↔ v = .ofInt64 n := by
  refine ⟨fun found => ?_, fun same => same ▸ int64?_ofInt64 n⟩
  cases v with
  | integer value =>
    rw [int64?, Option.ite_none_right_eq_some] at found
    obtain ⟨⟨low, high⟩, same⟩ := found
    have least : leastInteger = -2 ^ 63 := rfl
    have largest : largestInteger = 2 ^ 63 - 1 := rfl
    rw [ofInt64, ← Option.some.inj same, Int64.toInt_ofInt_of_le (by omega) (by omega)]
  | _ => cases found

theorem texts?_eq_some_iff {v : Json} {values : List String} : v.texts? = some values ↔ v = .texts values := by
  refine ⟨fun found => ?_, fun same => same ▸ texts?_texts values⟩
  cases v with
  | array items =>
    change items.mapM text? = some values at found
    rw [texts, Json.array.injEq]
    induction items generalizing values with
    | nil =>
      cases found
      rfl
    | cons item items ih =>
      simp only [List.mapM_cons, Option.bind_eq_bind, Option.bind_eq_some_iff] at found
      obtain ⟨value, first, others, rest, ⟨⟩⟩ := found
      cases item with
      | text _ =>
        cases first
        rw [ih rest]
        rfl
      | _ => cases first
  | _ => cases found

section Records

variable {surplus : Surplus} {fields : Schema.Fields} {values members result : List (String × Json)}

def isField (fields : Schema.Fields) (name : String) : Bool := (fields.lookup name).isSome

def fieldMembers (fields : Schema.Fields) (members : List (String × Json)) : List (String × Json) :=
  members.filter fun m => isField fields m.1

theorem mem_fieldMembers {m : String × Json} :
    m ∈ fieldMembers fields members ↔ m ∈ members ∧ isField fields m.1 = true :=
  List.mem_filter

/-- Names that no field has are passed over. -/
theorem decodeMembers_fieldMembers (values members : List (String × Json)) :
    decodeMembers surplus fields values members = decodeMembers surplus fields values (fieldMembers fields members) := by
  unfold fieldMembers
  induction members generalizing values with
  | nil => rfl
  | cons m members ih =>
    cases field : fields.lookup m.1 with
    | none =>
      have skipped : isField fields m.1 = false := by rw [isField, field, Option.isSome_none]
      simp only [decodeMembers, field, List.filter_cons, skipped, Bool.false_eq_true, if_false, ih]
    | some f =>
      have taken : isField fields m.1 = true := by rw [isField, field, Option.isSome_some]
      simp only [decodeMembers, field, List.filter_cons, taken, if_true, ih]

def TakesAsIs (surplus : Surplus) (fields : Schema.Fields) : Prop :=
  ∀ name s absence, fields.lookup name = some (s, absence) → ∀ v w, decode surplus s v = .ok w → w = v

theorem decodeMembers_eq_ok_iff (asIs : TakesAsIs surplus fields)
    (known : ∀ m ∈ members, isField fields m.1 = true) (once : ((values ++ members).map Prod.fst).Nodup) :
    decodeMembers surplus fields values members = .ok result ↔
      (∀ m ∈ members, ∃ s absence, fields.lookup m.1 = some (s, absence) ∧ decode surplus s m.2 = .ok m.2) ∧
        result = values ++ members := by
  refine ⟨fun decoded => ?_, fun normal => normal.2 ▸ decodeMembers_normal normal.1 once⟩
  induction members generalizing values with
  | nil =>
    rw [decodeMembers, Except.ok.injEq] at decoded
    exact ⟨List.forall_mem_nil _, by rw [← decoded, List.append_nil]⟩
  | cons m members ih =>
    obtain ⟨⟨s, absence⟩, field⟩ := Option.isSome_iff_exists.1 (known m List.mem_cons_self)
    have new : values.lookup m.1 = none := lookup_eq_none_of_nodup once
    have shifted : values ++ m :: members = (values ++ [m]) ++ members := by simp
    rw [decodeMembers, field] at decoded
    simp only [new, Option.isSome_none, Bool.false_eq_true, if_false, bind_eq_ok_iff] at decoded
    obtain ⟨w, taken, decoded⟩ := decoded
    obtain rfl := asIs _ _ _ field _ _ taken
    rw [shifted] at once ⊢
    obtain ⟨normal, same⟩ := ih (fun n hn => known n (List.mem_cons_of_mem m hn)) once decoded
    exact ⟨List.forall_mem_cons.2 ⟨⟨s, absence, field, taken⟩, normal⟩, same⟩

def defaulted (schema : String → Schema) (defaults : List (String × Json)) : Schema.Fields :=
  defaults.map fun (name, value) => (name, schema name, .default value)

variable {schema : String → Schema} {defaults : List (String × Json)}

theorem lookup_defaulted (name : String) :
    (defaulted schema defaults).lookup name =
      (defaults.lookup name).map fun value => (schema name, Absence.default value) := by
  induction defaults with
  | nil => rfl
  | cons d defaults ih =>
    change ((d.1, schema d.1, Absence.default d.2) :: defaulted schema defaults).lookup name = _
    rw [lookup_cons_eq, lookup_cons_eq, ih]
    split
    · rename_i same
      rw [same]
      rfl
    · rfl

theorem isField_defaulted (name : String) :
    isField (defaulted schema defaults) name = (defaults.lookup name).isSome := by
  rw [isField, lookup_defaulted, Option.isSome_map]

def filledIn (defaults values : List (String × Json)) : List (String × Json) :=
  defaults.map fun m => (m.1, (values.lookup m.1).getD m.2)

theorem completeRecord_defaulted (values : List (String × Json)) :
    completeRecord values (defaulted schema defaults) = .ok (filledIn defaults values) := by
  induction defaults with
  | nil => rfl
  | cons d defaults ih =>
    change completeRecord values ((d.1, schema d.1, Absence.default d.2) :: defaulted schema defaults) = _
    have first : filledIn (d :: defaults) values = (d.1, (values.lookup d.1).getD d.2) :: filledIn defaults values := rfl
    rw [first]
    cases found : values.lookup d.1 <;> simp [completeRecord, found, ih]

theorem filledIn_congr {others : List (String × Json)}
    (same : ∀ m ∈ defaults, values.lookup m.1 = others.lookup m.1) : filledIn defaults values = filledIn defaults others :=
  List.map_congr_left fun m hm => by rw [same m hm]

theorem decode_defaulted_eq_ok_iff {title : String} (asIs : TakesAsIs surplus (defaulted schema defaults))
    (once : (members.map Prod.fst).Nodup) {v : Json} :
    decode surplus (.record title (defaulted schema defaults)) (.object members) = .ok v ↔
      (∀ m ∈ members, (defaults.lookup m.1).isSome = true → decode surplus (schema m.1) m.2 = .ok m.2) ∧
        v = .object (filledIn defaults members) := by
  have filled : filledIn defaults (fieldMembers (defaulted schema defaults) members) = filledIn defaults members := by
    refine filledIn_congr fun m hm => lookup_filter ?_ members
    rw [isField_defaulted, isSome_lookup_iff]
    exact List.mem_map_of_mem hm
  have onceFields : (([] ++ fieldMembers (defaulted schema defaults) members).map Prod.fst).Nodup :=
    once.sublist (List.filter_sublist.map Prod.fst)
  have each : (∀ m ∈ fieldMembers (defaulted schema defaults) members, ∃ s absence,
      (defaulted schema defaults).lookup m.1 = some (s, absence) ∧ decode surplus s m.2 = .ok m.2) ↔
      ∀ m ∈ members, (defaults.lookup m.1).isSome = true → decode surplus (schema m.1) m.2 = .ok m.2 := by
    simp only [mem_fieldMembers, isField_defaulted, lookup_defaulted, and_imp]
    refine forall₃_congr fun m hm known => ?_
    obtain ⟨value, found⟩ := Option.isSome_iff_exists.1 known
    simp [found]
  simp only [decode]
  rw [decodeMembers_fieldMembers, ← each]
  simp only [bind_eq_ok_iff, decodeMembers_eq_ok_iff asIs (fun m hm => (mem_fieldMembers.1 hm).2) onceFields,
    List.nil_append, map_eq_ok_iff]
  constructor
  · rintro ⟨_, ⟨normal, rfl⟩, complete, completed, rfl⟩
    rw [completeRecord_defaulted, filled] at completed
    exact ⟨normal, by rw [Except.ok.inj completed]⟩
  · rintro ⟨normal, rfl⟩
    exact ⟨_, ⟨normal, rfl⟩, _, (completeRecord_defaulted _).trans (congrArg _ filled), rfl⟩

theorem mem_filledIn_iff {m : String × Json} :
    m ∈ filledIn defaults values ↔ ∃ d ∈ defaults, d.1 = m.1 ∧ (values.lookup m.1).getD d.2 = m.2 := by
  rw [filledIn, List.mem_map]
  refine exists_congr fun d => and_congr_right fun _ => ?_
  constructor
  · rintro rfl
    exact ⟨rfl, rfl⟩
  · rintro ⟨name, value⟩
    exact Prod.ext name (name ▸ value)

/-- Only the members that are fields matter, in any order. -/
theorem decodeDictionary_congr {title : String} {others : List (String × Json)} (once : (members.map Prod.fst).Nodup)
    (onceOthers : (others.map Prod.fst).Nodup)
    (same : (fieldMembers fields members).Perm (fieldMembers fields others)) :
    decodeDictionary (.record title fields) (.object members) =
      decodeDictionary (.record title fields) (.object others) := by
  have sorted : fieldMembers fields (sortMembers members) = fieldMembers fields (sortMembers others) :=
    eq_of_ascending ((sortMembers_ascending once).filter _) ((sortMembers_ascending onceOthers).filter _)
      (((sortMembers_perm once).filter _).trans (same.trans ((sortMembers_perm onceOthers).filter _).symm))
  simp only [decodeDictionary, decode]
  rw [decodeMembers_fieldMembers, sorted, ← decodeMembers_fieldMembers]

end Records

end OriginRegistry.Json
