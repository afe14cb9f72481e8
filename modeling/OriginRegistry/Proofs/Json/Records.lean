import OriginRegistry.Json.Codec
import OriginRegistry.Proofs.Json.RoundTrip

set_option autoImplicit false

namespace OriginRegistry

namespace Json

theorem isScalar_ofInt64 (n : Int64) : IsScalar (.ofInt64 n) := by
  have low := Int64.le_toInt n
  have high := Int64.toInt_lt n
  have least : leastInteger = -2 ^ 63 := rfl
  have largest : (largestWord : Int) = 2 ^ 64 - 1 := rfl
  change leastInteger ≤ n.toInt ∧ n.toInt ≤ largestWord
  omega

theorem plain_texts (values : List String) : Plain depthLimit (.texts values) := by
  refine .array fun v hv => ?_
  obtain ⟨value, _, rfl⟩ := List.mem_map.1 hv
  exact .scalar trivial

theorem int64?_ofInt64 (n : Int64) : (ofInt64 n).int64? = some n := by
  have low := Int64.le_toInt n
  have high := Int64.toInt_lt n
  have least : leastInteger = -2 ^ 63 := rfl
  have largest : largestInteger = 2 ^ 63 - 1 := rfl
  have fits : leastInteger ≤ n.toInt ∧ n.toInt ≤ largestInteger := by omega
  rw [ofInt64, int64?, if_pos fits, Int64.ofInt_toInt]

theorem texts?_texts (values : List String) : (texts values).texts? = some values := by
  change (values.map Json.text).mapM text? = some values
  induction values with
  | nil => rfl
  | cons value values ih =>
    rw [List.map_cons, List.mapM_cons, ih]
    rfl

theorem lookup_eq_none_of_nodup {values members : List (String × Json)} {m : String × Json}
    (once : ((values ++ m :: members).map Prod.fst).Nodup) : values.lookup m.1 = none := by
  rw [List.lookup_eq_none_iff]
  intro n hn
  have apart := (List.nodup_append.1 ((List.map_append ..) ▸ once)).2.2 n.1 (List.mem_map_of_mem hn) m.1
    (List.mem_map_of_mem List.mem_cons_self)
  simpa using apart.symm

section Decode

variable {surplus : Surplus}

theorem decode_ofInt64 (n : Int64) : decode surplus .integer (.ofInt64 n) = .ok (.ofInt64 n) := by
  have high := Int64.toInt_lt n
  have largest : largestInteger = 2 ^ 63 - 1 := rfl
  have fits : ¬ largestInteger < n.toInt := by omega
  rw [ofInt64, decode, checkInteger, if_neg fits]

theorem decode_text (value : String) : decode surplus .text (.text value) = .ok (.text value) := by
  rw [decode]

theorem decode_texts (values : List String) : decode surplus (.list .text) (.texts values) = .ok (.texts values) := by
  have each : decodeItems surplus .text (values.map .text) = .ok (values.map .text) := by
    induction values with
    | nil => rfl
    | cons value values ih =>
      rw [List.map_cons, decodeItems, ih]
      rfl
  rw [texts, decode, each]
  rfl

/-- Members that are in normal form are taken as they are, as long as none comes twice. -/
theorem decodeMembers_normal {fields : Schema.Fields} {members values : List (String × Json)}
    (normal : ∀ m ∈ members, ∃ s absence, fields.lookup m.1 = some (s, absence) ∧ decode surplus s m.2 = .ok m.2)
    (once : ((values ++ members).map Prod.fst).Nodup) :
    decodeMembers surplus fields values members = .ok (values ++ members) := by
  induction members generalizing values with
  | nil => rw [decodeMembers, List.append_nil]
  | cons m members ih =>
    obtain ⟨s, absence, field, decoded⟩ := normal m List.mem_cons_self
    have new : values.lookup m.1 = none := lookup_eq_none_of_nodup once
    have shifted : values ++ m :: members = (values ++ [m]) ++ members := by simp
    rw [shifted] at once ⊢
    rw [decodeMembers, field]
    simp only [new, decoded, ok_bind]
    exact ih (fun n hn => normal n (List.mem_cons_of_mem m hn)) once

theorem decode_record {title : String} {fields : Schema.Fields} {members complete : List (String × Json)}
    (normal : ∀ m ∈ members, ∃ s absence, fields.lookup m.1 = some (s, absence) ∧ decode surplus s m.2 = .ok m.2)
    (once : (members.map Prod.fst).Nodup) (completed : completeRecord members fields = .ok complete) :
    decode surplus (.record title fields) (.object members) = .ok (.object complete) := by
  have taken : decodeMembers surplus fields [] members = .ok members := decodeMembers_normal normal once
  simp only [decode, taken, ok_bind, completed]
  rfl

end Decode

end Json

end OriginRegistry
