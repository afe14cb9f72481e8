import OriginRegistry.Proofs.Json.Records

set_option autoImplicit false

namespace OriginRegistry.Json

structure ReadsAs {α : Type} (reader : Reader α) (cs : List Char) (x : α) : Prop where
  starts : Starts cs
  back : ∀ rest, Stops rest → reader (cs ++ rest) = .ok (x, rest)

theorem readsBack_iff {α : Type} {item : Reader α} {write : α → List Char} {x : α} :
    ReadsBack item write x ↔ ReadsAs item (write x) x :=
  ⟨fun h => ⟨h.starts, h.back⟩, fun h => ⟨h.starts, h.back⟩⟩

theorem readChecked_scalar {s : Schema} {v n : Json} (scalar : IsScalar v) (decoded : decodeContent s v = .ok n) :
    ReadsAs (readChecked s) (chars v) n := by
  obtain ⟨c, tail, written, printed, noArray, noEnd, noObject⟩ := scalar_chars scalar
  refine ⟨⟨c, tail, written, printed, noEnd⟩, fun rest stops => ?_⟩
  have read := readScalar_append scalar stops
  rw [written, List.cons_append] at read ⊢
  simp [readChecked, skipBlanks_cons printed, noArray, noObject, read, decoded]

theorem read_scalar (depth : Nat) {s : Schema} {v n : Json} (scalar : IsScalar v)
    (decoded : decodeContent s v = .ok n) : ReadsAs (read depth s) (chars v) n := by
  have checked := readChecked_scalar scalar decoded
  refine ⟨checked.starts, fun rest stops => ?_⟩
  rw [← checked.back rest stops]
  obtain ⟨c, tail, written, printed, noArray, noEnd, noObject⟩ := scalar_chars scalar
  rw [written, List.cons_append]
  cases depth with
  | zero => simp [read, readChecked, skipBlanks_cons printed, noArray, noObject]
  | succ depth =>
    cases s with
    | list | record | variants =>
      cases v <;> cases scalar <;> simp [decodeContent, decode] at decoded
    | integer | boolean | text | format | optionalText | choice => rw [read] <;> simp

theorem read_list {depth : Nat} {s : Schema} {items : List Json}
    (each : ∀ v ∈ items, ReadsAs (read depth s) (chars v) v) :
    ReadsAs (read (depth + 1) (.list s)) (chars (.array items)) (.array items) := by
  have bracket : isBlank '[' = false := rfl
  refine ⟨⟨'[', _, chars_array items, bracket, by decide⟩, fun rest _ => ?_⟩
  have enough : items.length < (separated chars items ++ ']' :: rest).length + 1 := by
    have some := length_le_separated chars items
    rw [List.length_append, List.length_cons]
    omega
  have read := readItems_separated (fun v hv => readsBack_iff.2 (each v hv)) enough rest
  rw [chars_array, List.cons_append, List.append_assoc, List.cons_append, List.nil_append, Json.read,
    skipBlanks_cons bracket]
  simp only [read]
  rfl

section Records

variable {fields : Schema.Fields} {read : Schema → Reader Json}

def FieldsRead (fields : Schema.Fields) (read : Schema → Reader Json) (members : List (String × Json)) : Prop :=
  ∀ m ∈ members, ∃ s absence, fields.lookup m.1 = some (s, absence) ∧ ReadsAs (read s) (chars m.2) m.2

theorem FieldsRead.nil : FieldsRead fields read [] := nofun

theorem FieldsRead.cons {name : String} {v : Json} {s : Schema} {absence : Absence} {members : List (String × Json)}
    (field : fields.lookup name = some (s, absence)) (reads : ReadsAs (read s) (chars v) v)
    (others : FieldsRead fields read members) : FieldsRead fields read ((name, v) :: members) :=
  List.forall_mem_cons.2 ⟨⟨s, absence, field, reads⟩, others⟩

theorem readFields_end {values complete : List (String × Json)} (completed : completeRecord values fields = .ok complete)
    (fuel : Nat) (first : Bool) (rest : List Char) :
    readFields fields read (fuel + 1) first values ('\x7d' :: rest) = .ok (complete, rest) := by
  have brace : isBlank '\x7d' = false := rfl
  simp [readFields, nextName?, closeObject, skipBlanks_cons brace, completed, Except.map]

theorem readFields_later {members values complete : List (String × Json)} (each : FieldsRead fields read members)
    (once : ((values ++ members).map Prod.fst).Nodup)
    (completed : completeRecord (values ++ members) fields = .ok complete) {fuel : Nat}
    (enough : members.length < fuel) (rest : List Char) :
    readFields fields read fuel false values (laterItems (memberText chars) members ++ '\x7d' :: rest) =
      .ok (complete, rest) := by
  induction members generalizing fuel values with
  | nil =>
    rw [List.append_nil] at completed
    cases fuel with
    | zero => cases enough
    | succ fuel => exact readFields_end completed fuel false rest
  | cons m members ih =>
    cases fuel with
    | zero => cases enough
    | succ fuel =>
      obtain ⟨s, absence, field, here⟩ := each m List.mem_cons_self
      have new : values.lookup m.1 = none := lookup_eq_none_of_nodup once
      have shifted : values ++ m :: members = (values ++ [m]) ++ members := by simp
      rw [shifted] at once completed
      have others := ih (fun n hn => each n (List.mem_cons_of_mem m hn)) once completed (Nat.lt_of_succ_lt_succ enough)
      have split : laterItems (memberText chars) (m :: members) ++ '\x7d' :: rest =
          ',' :: (memberText chars m ++ (laterItems (memberText chars) members ++ '\x7d' :: rest)) := by
        simp [laterItems]
      rw [split, memberText_append, readFields, nextName?_later]
      simp only [readText_append, ok_bind, field, new, readColon_colon,
        here.back _ (stops_laterItems stops_brace members rest), others]
      rfl

theorem readFields_separated {members complete : List (String × Json)} (each : FieldsRead fields read members)
    (once : (members.map Prod.fst).Nodup) (completed : completeRecord members fields = .ok complete) {fuel : Nat}
    (enough : members.length < fuel) (rest : List Char) :
    readFields fields read fuel true [] (separated (memberText chars) members ++ '\x7d' :: rest) =
      .ok (complete, rest) := by
  cases fuel with
  | zero => cases enough
  | succ fuel =>
    cases members with
    | nil => exact readFields_end completed fuel true rest
    | cons m members =>
      obtain ⟨s, absence, field, here⟩ := each m List.mem_cons_self
      have others : readFields fields read fuel false [m]
          (laterItems (memberText chars) members ++ '\x7d' :: rest) = .ok (complete, rest) :=
        readFields_later (fun n hn => each n (List.mem_cons_of_mem m hn)) once completed
          (Nat.lt_of_succ_lt_succ enough) rest
      rw [separated, List.append_assoc, memberText_append, readFields, nextName?_first]
      simp only [readText_append, ok_bind, field, List.lookup_nil, Option.isSome_none, Bool.false_eq_true, ↓reduceIte,
        readColon_colon, here.back _ (stops_laterItems stops_brace members rest), List.nil_append, others]

end Records

theorem read_record {depth : Nat} {title : String} {fields : Schema.Fields} {members complete : List (String × Json)}
    (each : FieldsRead fields (read depth) members) (once : (members.map Prod.fst).Nodup)
    (completed : completeRecord members fields = .ok complete) :
    ReadsAs (read (depth + 1) (.record title fields)) (chars (.object members)) (.object complete) := by
  have brace : isBlank '\x7b' = false := rfl
  refine ⟨⟨'\x7b', _, chars_object members, brace, by decide⟩, fun rest _ => ?_⟩
  have enough : members.length < (separated (memberText chars) members ++ '\x7d' :: rest).length + 1 := by
    have some := length_le_separated (memberText chars) members
    rw [List.length_append, List.length_cons]
    omega
  have read := readFields_separated each once completed enough rest
  rw [chars_object, List.cons_append, List.append_assoc, List.cons_append, List.nil_append, Json.read,
    skipBlanks_cons brace]
  simp only [read]
  rfl

section Variants

variable {tag : String} {cases : List (String × Schema)} {value : Reader Json}

theorem readCase_append {case : String} (known : (cases.lookup case).isSome = true) (rest : List Char) :
    readCase cases (chars (.text case) ++ rest) = .ok (case, rest) := by
  have quote : isBlank '"' = false := rfl
  have written : chars (.text case) ++ rest = '"' :: (case.toList.flatMap escape ++ '"' :: rest) := by
    simp [chars, Json.quote]
  rw [written, readCase, skipBlanks_cons quote]
  simp only [readText_append, ok_bind, known, ↓reduceIte]

theorem readTagged_later {case : String} {members : List (String × Json)}
    (each : ∀ m ∈ members, m.1 ≠ tag ∧ ReadsAs value (chars m.2) m.2) {fuel : Nat} (enough : members.length < fuel)
    (rest : List Char) :
    readTagged tag cases value fuel false (some case) (laterItems (memberText chars) members ++ '\x7d' :: rest) =
      .ok ((some case, members), rest) := by
  induction members generalizing fuel with
  | nil =>
    cases fuel with
    | zero => cases enough
    | succ fuel =>
      have brace : isBlank '\x7d' = false := rfl
      simp [laterItems, readTagged, nextName?, closeObject, skipBlanks_cons brace, Except.map]
  | cons m members ih =>
    cases fuel with
    | zero => cases enough
    | succ fuel =>
      obtain ⟨other, here⟩ := each m List.mem_cons_self
      have others := ih (fun n hn => each n (List.mem_cons_of_mem m hn)) (Nat.lt_of_succ_lt_succ enough)
      have split : laterItems (memberText chars) (m :: members) ++ '\x7d' :: rest =
          ',' :: (memberText chars m ++ (laterItems (memberText chars) members ++ '\x7d' :: rest)) := by
        simp [laterItems]
      rw [split, memberText_append, readTagged, nextName?_later]
      simp only [readText_append, ok_bind, other, ↓reduceIte, readColon_colon,
        here.back _ (stops_laterItems stops_brace members rest), others]

theorem readTagged_tagged {case : String} (known : (cases.lookup case).isSome = true) {members : List (String × Json)}
    (each : ∀ m ∈ members, m.1 ≠ tag ∧ ReadsAs value (chars m.2) m.2) {fuel : Nat}
    (enough : members.length + 1 < fuel) (rest : List Char) :
    readTagged tag cases value fuel true none
        (separated (memberText chars) ((tag, .text case) :: members) ++ '\x7d' :: rest) =
      .ok ((some case, members), rest) := by
  cases fuel with
  | zero => cases enough
  | succ fuel =>
    rw [separated, List.append_assoc, memberText_append, readTagged, nextName?_first]
    simp only [readText_append, ok_bind, ↓reduceIte, Option.isSome_none, Bool.false_eq_true, readColon_colon,
      readCase_append known, readTagged_later each (Nat.lt_of_succ_lt_succ enough)]

theorem read_tagged {depth : Nat} {title case : String} {s : Schema} {members : List (String × Json)} {n : Json}
    (known : cases.lookup case = some s) (each : ∀ m ∈ members, m.1 ≠ tag ∧ ReadsAs (readValue depth) (chars m.2) m.2)
    (decoded : decodeContent s (.object members) = .ok n) :
    ReadsAs (read (depth + 1) (.variants title tag cases)) (chars (.object ((tag, .text case) :: members)))
      (tagged tag case n) := by
  have brace : isBlank '\x7b' = false := rfl
  refine ⟨⟨'\x7b', _, chars_object _, brace, by decide⟩, fun rest _ => ?_⟩
  have enough : members.length + 1 <
      (separated (memberText chars) ((tag, .text case) :: members) ++ '\x7d' :: rest).length + 1 := by
    have some := length_le_separated (memberText chars) ((tag, .text case) :: members)
    rw [List.length_append, List.length_cons]
    rw [List.length_cons] at some
    omega
  have isCase : (cases.lookup case).isSome = true := by
    rw [known]
    rfl
  have read := readTagged_tagged isCase each enough rest
  rw [chars_object, List.cons_append, List.append_assoc, List.cons_append, List.nil_append, Json.read, readVariants,
    skipBlanks_cons brace]
  simp only [read, ok_bind, checkCase, known, decoded]

end Variants

variable {α β : Type}

/-- What is written of a value is in normal form: it is read as it is, and the value comes from it. -/
structure Codec.Exact (c : Codec α) (depth : Nat) (x : α) : Prop where
  reads : ReadsAs (read depth c.schema) (chars (c.toJson x)) (c.toJson x)
  back : c.ofJson? (c.toJson x) = some x

/-- A value is read from a text that was printed if what was printed has a normal form that the value comes from. -/
theorem Decoder.parse_print {d : Decoder α} {x : α} {v n : Json} (reads : ReadsAs (read depthLimit d.schema) (chars v) n)
    (back : d.ofJson? n = some x) : d.parse v.print = .ok x := by
  have read := reads.back [] Stops.nil
  rw [List.append_nil] at read
  have parsed : parseAs d.schema v.print = .ok n := by
    simp only [parseAs, readWhole, Json.print, String.toList_ofList, read]
    rfl
  rw [Decoder.parse, parsed, ok_bind, Decoder.interpret, back]

theorem Decoder.interpret_eq_ok_iff {d : Decoder α} {v : Json} {x : α} : d.interpret v = .ok x ↔ d.ofJson? v = some x := by
  unfold Decoder.interpret
  cases d.ofJson? v with
  | none => exact ⟨nofun, nofun⟩
  | some y => rw [Except.ok.injEq, Option.some.injEq]

theorem Decoder.ofJson?_of_parse {d : Decoder α} {source : String} {x : α} (parsed : d.parse source = .ok x) :
    ∃ v, d.ofJson? v = some x := by
  obtain ⟨v, _, interpreted⟩ := bind_eq_ok_iff.1 parsed
  exact ⟨v, Decoder.interpret_eq_ok_iff.1 interpreted⟩

theorem Codec.Exact.parse_print {c : Codec α} {x : α} (exact : c.Exact depthLimit x) : c.parse (c.print x) = .ok x :=
  Decoder.parse_print exact.reads exact.back

theorem int64Codec_exact (depth : Nat) (n : Int64) : int64Codec.Exact depth n where
  reads := read_scalar depth (isScalar_ofInt64 n) (decode_ofInt64 n)
  back := int64?_ofInt64 n

theorem textCodec_exact (depth : Nat) (value : String) : textCodec.Exact depth value where
  reads := read_scalar depth trivial (decode_text value)
  back := rfl

theorem Codec.Exact.wrap {c : Codec α} {depth : Nat} {mk : α → β} {val : β → α} {x : β}
    (exact : c.Exact depth (val x)) (whole : mk (val x) = x) : (c.wrap mk val).Exact depth x where
  reads := exact.reads
  back := by
    change (c.ofJson? (c.toJson (val x))).map mk = some x
    rw [exact.back, Option.map_some, whole]

theorem Codec.Exact.list {c : Codec α} {depth : Nat} {xs : List α} (each : ∀ x ∈ xs, c.Exact depth x) :
    c.list.Exact (depth + 1) xs where
  reads := by
    refine read_list fun v hv => ?_
    obtain ⟨x, hx, rfl⟩ := List.mem_map.1 hv
    exact (each x hx).reads
  back := by
    change (xs.map c.toJson).mapM c.ofJson? = some xs
    induction xs with
    | nil => rfl
    | cons x xs ih =>
      have here := (each x List.mem_cons_self).back
      have others := ih fun y hy => each y (List.mem_cons_of_mem x hy)
      rw [List.map_cons, List.mapM_cons, here, others]
      rfl

end OriginRegistry.Json
