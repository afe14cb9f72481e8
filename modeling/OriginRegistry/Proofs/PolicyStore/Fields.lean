import OriginRegistry.Proofs.Json.Dictionaries
import OriginRegistry.Proofs.Json.Shapes
import OriginRegistry.Proofs.PolicyStore.RoundTrip

/-!
# Policies are read field by field

A policy is read from attributes if each value can be parsed and that of a field is of the field's type. Every field
then has the value of its own attribute, or the standard one where there is none: neither the order of the attributes
nor what is stored under other names matters. A tenant whose attributes cannot be read is told so, and is not answered
with the standard policy.
-/

set_option autoImplicit false

namespace OriginRegistry

namespace Policy

open Json

inductive FieldType
  | flag
  | texts
  | seconds

namespace FieldType

def Admits : FieldType → Json → Prop
  | .flag, v => ∃ value, v = .boolean value
  | .texts, v => ∃ values, v = .texts values
  | .seconds, v => ∃ n, v = .ofInt64 n

def schema : FieldType → Schema
  | .flag => .boolean
  | .texts => .list .text
  | .seconds => .integer

variable {surplus : Surplus} {t : FieldType} {v w : Json}

theorem Admits.decode (fits : t.Admits v) : decode surplus t.schema v = .ok v := by
  cases t with
  | flag =>
    obtain ⟨value, rfl⟩ := fits
    rw [schema, Json.decode]
  | texts =>
    obtain ⟨values, rfl⟩ := fits
    exact decode_texts values
  | seconds =>
    obtain ⟨n, rfl⟩ := fits
    exact decode_ofInt64 n

theorem decodeItems_text {items decoded : List Json} (ok : decodeItems surplus .text items = .ok decoded) :
    ∃ values : List String, items = values.map .text ∧ decoded = items := by
  induction items generalizing decoded with
  | nil =>
    rw [decodeItems] at ok
    exact ⟨[], rfl, (Except.ok.inj ok).symm⟩
  | cons item items ih =>
    simp only [decodeItems, bind_eq_ok_iff] at ok
    obtain ⟨x, first, xs, rest, ⟨⟩⟩ := ok
    obtain ⟨values, rfl, rfl⟩ := ih rest
    cases item with
    | text value =>
      rw [Json.decode] at first
      exact ⟨value :: values, rfl, by rw [Except.ok.inj first]⟩
    | _ => simp [Json.decode] at first

theorem eq_of_decode (ok : decode surplus t.schema v = .ok w) : w = v := by
  cases t with
  | flag =>
    cases v with
    | boolean value =>
      rw [schema, Json.decode] at ok
      exact (Except.ok.inj ok).symm
    | _ => simp [schema, Json.decode] at ok
  | texts =>
    cases v with
    | array items =>
      rw [schema, Json.decode, map_eq_ok_iff] at ok
      obtain ⟨decoded, each, rfl⟩ := ok
      obtain ⟨_, _, rfl⟩ := decodeItems_text each
      rfl
    | _ => simp [schema, Json.decode] at ok
  | seconds =>
    cases v with
    | integer value =>
      rw [schema, Json.decode, checkInteger, ite_error_eq_ok_iff] at ok
      exact (Except.ok.inj ok.2).symm
    | _ => simp [schema, Json.decode] at ok

end FieldType

def fieldTypes : List (String × FieldType) :=
  [("allow_generic_http_requests", .flag),
    ("allow_any_origin", .flag),
    ("allow_subdomains", .flag),
    ("supported_methods", .texts),
    ("support_any_header", .flag),
    ("supported_headers", .texts),
    ("exposed_headers", .texts),
    ("supports_credentials", .flag),
    ("max_age", .seconds)]

def fieldType? (name : String) : Option FieldType := fieldTypes.lookup name

theorem fieldSchema_of_type {name : String} {t : FieldType} (field : fieldType? name = some t) :
    fieldSchema name = t.schema := by
  have once : (fieldTypes.map Prod.fst).Nodup := by decide
  have listed : (name, t) ∈ fieldTypes := (lookup_eq_some_iff once).1 field
  simp only [fieldTypes, List.mem_cons, List.not_mem_nil, or_false, Prod.mk.injEq] at listed
  rcases listed with ⟨rfl, rfl⟩ | ⟨rfl, rfl⟩ | ⟨rfl, rfl⟩ | ⟨rfl, rfl⟩ | ⟨rfl, rfl⟩ | ⟨rfl, rfl⟩ | ⟨rfl, rfl⟩ |
    ⟨rfl, rfl⟩ | ⟨rfl, rfl⟩ <;> rfl

theorem isSome_lookup_standard (name : String) :
    (standard.members.lookup name).isSome = (fieldType? name).isSome := by
  have same : standard.members.map Prod.fst = fieldTypes.map Prod.fst := rfl
  rw [Bool.eq_iff_iff, fieldType?, isSome_lookup_iff, isSome_lookup_iff, same]

theorem takesAsIs (surplus : Surplus) : TakesAsIs surplus fields := by
  intro name s absence field v w ok
  rw [show fields = defaulted fieldSchema standard.members from rfl, lookup_defaulted] at field
  obtain ⟨value, found, ⟨⟩⟩ := Option.map_eq_some_iff.1 field
  have known := isSome_lookup_standard name
  rw [found, Option.isSome_some] at known
  obtain ⟨t, type⟩ := Option.isSome_iff_exists.1 known.symm
  rw [fieldSchema_of_type type] at ok
  exact FieldType.eq_of_decode ok

theorem members_admitted (p : Policy) {m : String × Json} (hm : m ∈ p.members) {t : FieldType}
    (field : fieldType? m.1 = some t) : t.Admits m.2 := by
  simp only [members, List.mem_cons, List.not_mem_nil, or_false] at hm
  rcases hm with rfl | rfl | rfl | rfl | rfl | rfl | rfl | rfl | rfl <;> obtain rfl := Option.some.inj field <;>
    exact ⟨_, rfl⟩

theorem exists_members (value : String × Json → Json)
    (admitted : ∀ m ∈ standard.members, ∀ t, fieldType? m.1 = some t → t.Admits (value m)) :
    ∃ p : Policy, p.members = standard.members.map fun m => (m.1, value m) := by
  simp only [standard, members, List.forall_mem_cons] at admitted
  obtain ⟨generic, anyOrigin, subdomains, methods, anyHeader, supported, exposed, credentials, age, -⟩ := admitted
  obtain ⟨genericValue, generic⟩ := generic _ rfl
  obtain ⟨anyOriginValue, anyOrigin⟩ := anyOrigin _ rfl
  obtain ⟨subdomainsValue, subdomains⟩ := subdomains _ rfl
  obtain ⟨methodsValue, methods⟩ := methods _ rfl
  obtain ⟨anyHeaderValue, anyHeader⟩ := anyHeader _ rfl
  obtain ⟨supportedValue, supported⟩ := supported _ rfl
  obtain ⟨exposedValue, exposed⟩ := exposed _ rfl
  obtain ⟨credentialsValue, credentials⟩ := credentials _ rfl
  obtain ⟨ageValue, age⟩ := age _ rfl
  refine ⟨⟨genericValue, anyOriginValue, subdomainsValue, methodsValue, anyHeaderValue, supportedValue, exposedValue,
    credentialsValue, ageValue⟩, ?_⟩
  simp only [standard, members, List.map_cons, List.map_nil, generic, anyOrigin, subdomains, methods, anyHeader,
    supported, exposed, credentials, age]

theorem ofJson?_eq_some_iff {value : String × Json → Json} {p : Policy} :
    codec.ofJson? (.object (standard.members.map fun m => (m.1, value m))) = some p ↔
      p.members = standard.members.map fun m => (m.1, value m) := by
  refine ⟨fun found => ?_, fun same => same ▸ ofJson?_members p⟩
  simp only [codec, Option.bind_eq_bind, Option.bind_eq_some_iff, Option.some.injEq] at found
  obtain ⟨_, ⟨_, ⟨⟩, generic⟩, _, ⟨_, ⟨⟩, anyOrigin⟩, _, ⟨_, ⟨⟩, subdomains⟩, _, ⟨_, ⟨⟩, methods⟩, _,
    ⟨_, ⟨⟩, anyHeader⟩, _, ⟨_, ⟨⟩, supported⟩, _, ⟨_, ⟨⟩, exposed⟩, _, ⟨_, ⟨⟩, credentials⟩, _, ⟨_, ⟨⟩, age⟩,
    rfl⟩ := found
  rw [boolean?_eq_some_iff] at generic anyOrigin subdomains anyHeader credentials
  rw [texts?_eq_some_iff] at methods supported exposed
  rw [int64?_eq_some_iff] at age
  simp only [standard, members, List.map_cons, List.map_nil, ← generic, ← anyOrigin, ← subdomains, ← methods,
    ← anyHeader, ← supported, ← exposed, ← credentials, ← age]

theorem mem_members {p : Policy} {given : List (String × Json)} (same : p.members = filledIn standard.members given)
    {name : String} {t : FieldType} (type : fieldType? name = some t) {v : Json} (value : given.lookup name = some v) :
    (name, v) ∈ p.members := by
  have field := isSome_lookup_standard name
  rw [type, Option.isSome_some, isSome_lookup_iff] at field
  obtain ⟨d, hd, same_name⟩ := List.mem_map.1 field
  rw [same, mem_filledIn_iff]
  exact ⟨d, hd, same_name, by rw [value, Option.getD_some]⟩

/-- A dictionary is read as the policy whose members are its own values, or the standard ones where it has none. -/
theorem ofDictionary_eq_ok_iff {given : List (String × Json)} (once : (given.map Prod.fst).Nodup) {p : Policy} :
    codec.ofDictionary (.object given) = .ok p ↔ p.members = filledIn standard.members given := by
  have sorted := sortMembers_perm once
  have onceSorted := (sorted.map Prod.fst).nodup_iff.2 once
  have filled : filledIn standard.members (sortMembers given) = filledIn standard.members given :=
    filledIn_congr fun m _ => lookup_congr onceSorted sorted m.1
  have taken (surplus : Surplus) {v : Json} :
      decode surplus codec.schema (.object (sortMembers given)) = .ok v ↔ _ :=
    decode_defaulted_eq_ok_iff (takesAsIs surplus) onceSorted
  rw [filled] at taken
  rw [Decoder.ofDictionary, bind_eq_ok_iff]
  simp only [decodeDictionary, mapError_eq_ok_iff, Decoder.interpret_eq_ok_iff]
  constructor
  · rintro ⟨v, decoded, found⟩
    obtain ⟨-, rfl⟩ := (taken _).1 decoded
    exact ofJson?_eq_some_iff.1 found
  · intro same
    refine ⟨_, (taken _).2 ⟨fun m hm field => ?_, rfl⟩, ofJson?_eq_some_iff.2 same⟩
    -- the member is one of the policy, whose values the fields admit
    obtain ⟨t, type⟩ := Option.isSome_iff_exists.1 ((isSome_lookup_standard m.1).symm.trans field)
    have value : given.lookup m.1 = some m.2 := (lookup_eq_some_iff once).2 (sorted.mem_iff.1 hm)
    rw [fieldSchema_of_type type]
    exact (members_admitted p (mem_members same type value) type).decode

/-- Every value can be parsed, and that of a field is of its type. -/
def Readable (attributes : List Attribute) : Prop :=
  ∀ a ∈ attributes, ∃ v, Json.parse a.value = .ok v ∧ ∀ t, fieldType? a.key = some t → t.Admits v

/-- Each field of a policy is what the attribute of its name says, or standard where there is none. -/
def Follows (attributes : List Attribute) (p : Policy) : Prop :=
  ∀ m ∈ p.members, (∀ a ∈ attributes, a.key = m.1 → Json.parse a.value = .ok m.2) ∧
    ((∀ a ∈ attributes, a.key ≠ m.1) → m ∈ standard.members)

def saying (a : Attribute) : String × Json := (a.key, (Json.parse a.value).toOption.getD .null)

def parseAll (attributes : List Attribute) : Except Json.Error (List (String × Json)) :=
  attributes.mapM fun a => do return (a.key, ← Json.parse a.value)

theorem ofAttributes_eq (attributes : List Attribute) :
    ofAttributes attributes = parseAll attributes >>= fun given => codec.ofDictionary (.object given) := rfl

theorem parseAll_cons (a : Attribute) (attributes : List Attribute) :
    parseAll (a :: attributes) = (do
      let v ← Json.parse a.value
      let given ← parseAll attributes
      return (a.key, v) :: given) := by
  rw [parseAll, List.mapM_cons]
  cases Json.parse a.value <;> rfl

theorem parseAll_append (front rest : List Attribute) :
    parseAll (front ++ rest) = (do
      let first ← parseAll front
      let second ← parseAll rest
      return first ++ second) :=
  List.mapM_append

theorem parseAll_eq_ok_iff {attributes : List Attribute} {given : List (String × Json)} :
    parseAll attributes = .ok given ↔
      (∀ a ∈ attributes, ∃ v, Json.parse a.value = .ok v) ∧ given = attributes.map saying := by
  induction attributes generalizing given with
  | nil => simp [parseAll, pure, Except.pure, eq_comm]
  | cons a attributes ih =>
    simp only [parseAll_cons, bind_eq_ok_iff, ih, pure_eq_ok_iff, List.forall_mem_cons, List.map_cons]
    constructor
    · rintro ⟨v, parsed, _, ⟨others, rfl⟩, rfl⟩
      exact ⟨⟨⟨v, parsed⟩, others⟩, by rw [saying, parsed]; rfl⟩
    · rintro ⟨⟨⟨v, parsed⟩, others⟩, rfl⟩
      exact ⟨v, parsed, _, ⟨others, rfl⟩, by rw [saying, parsed]; rfl⟩

variable {attributes others : List Attribute}

theorem map_saying_keys (attributes : List Attribute) :
    (attributes.map saying).map Prod.fst = attributes.map Attribute.key := by
  rw [List.map_map]
  rfl

theorem ofAttributes_eq_ok_iff (once : (attributes.map Attribute.key).Nodup) {p : Policy} :
    ofAttributes attributes = .ok p ↔
      (∀ a ∈ attributes, ∃ v, Json.parse a.value = .ok v) ∧
        p.members = filledIn standard.members (attributes.map saying) := by
  rw [← map_saying_keys] at once
  rw [ofAttributes_eq, bind_eq_ok_iff]
  simp only [parseAll_eq_ok_iff]
  constructor
  · rintro ⟨_, ⟨parsed, rfl⟩, read⟩
    exact ⟨parsed, (ofDictionary_eq_ok_iff once).1 read⟩
  · rintro ⟨parsed, same⟩
    exact ⟨_, ⟨parsed, rfl⟩, (ofDictionary_eq_ok_iff once).2 same⟩

theorem lookup_saying_of_mem (once : (attributes.map Attribute.key).Nodup) {a : Attribute} (ha : a ∈ attributes) {v : Json}
    (parsed : Json.parse a.value = .ok v) : (attributes.map saying).lookup a.key = some v := by
  rw [← map_saying_keys] at once
  refine (lookup_eq_some_iff once).2 (List.mem_map.2 ⟨a, ha, ?_⟩)
  rw [saying, parsed]
  rfl

theorem lookup_saying_cases (attributes : List Attribute) (name : String) :
    (∃ a ∈ attributes, a.key = name) ∨ (attributes.map saying).lookup name = none := by
  cases found : (attributes.map saying).lookup name with
  | none => exact .inr rfl
  | some v =>
    have named := isSome_lookup_iff.1 (found ▸ Option.isSome_some)
    rw [map_saying_keys] at named
    exact .inl (List.mem_map.1 named)

/-- Whether a policy can be read is decided value by value. -/
theorem exists_policy_iff (once : (attributes.map Attribute.key).Nodup) :
    (∃ p, ofAttributes attributes = .ok p) ↔ Readable attributes := by
  simp only [ofAttributes_eq_ok_iff once]
  constructor
  · rintro ⟨p, parsed, same⟩ a ha
    obtain ⟨v, said⟩ := parsed a ha
    exact ⟨v, said, fun t type => members_admitted p (mem_members same type (lookup_saying_of_mem once ha said)) type⟩
  · intro readable
    have parsed : ∀ a ∈ attributes, ∃ v, Json.parse a.value = .ok v :=
      fun a ha => (readable a ha).imp fun v said => said.1
    obtain ⟨p, same⟩ := exists_members (fun m => ((attributes.map saying).lookup m.1).getD m.2) <| by
      intro m hm t type
      rcases lookup_saying_cases attributes m.1 with ⟨a, ha, named⟩ | absent
      · obtain ⟨v, said, admitted⟩ := readable a ha
        rw [← named, lookup_saying_of_mem once ha said, Option.getD_some]
        exact admitted t (named ▸ type)
      · rw [absent, Option.getD_none]
        exact members_admitted standard hm type
    exact ⟨p, parsed, same⟩

theorem follows_of_read (once : (attributes.map Attribute.key).Nodup) {p : Policy}
    (read : ofAttributes attributes = .ok p) : p.Follows attributes := by
  obtain ⟨parsed, same⟩ := (ofAttributes_eq_ok_iff once).1 read
  intro m hm
  rw [same, mem_filledIn_iff] at hm
  obtain ⟨d, hd, name, value⟩ := hm
  constructor
  · intro a ha named
    obtain ⟨v, said⟩ := parsed a ha
    rw [← named, lookup_saying_of_mem once ha said, Option.getD_some] at value
    rw [said, value]
  · intro absent
    rcases lookup_saying_cases attributes m.1 with ⟨a, ha, named⟩ | none
    · exact absurd named (absent a ha)
    · rw [none, Option.getD_none] at value
      rwa [← Prod.ext name value]

theorem ofAttributes_perm (once : (attributes.map Attribute.key).Nodup) (same : attributes.Perm others) :
    (ofAttributes others).toOption = (ofAttributes attributes).toOption := by
  have onceOthers := (same.map Attribute.key).nodup_iff.1 once
  have onceSaying := (map_saying_keys attributes).symm ▸ once
  have filled : filledIn standard.members (others.map saying) = filledIn standard.members (attributes.map saying) :=
    filledIn_congr fun m _ => (lookup_congr onceSaying (same.map saying) m.1).symm
  have toOption_eq {x : Except Json.Error Policy} {p : Policy} : x.toOption = some p ↔ x = .ok p := by
    cases x <;> simp [Except.toOption]
  ext p
  rw [toOption_eq, toOption_eq, ofAttributes_eq_ok_iff once, ofAttributes_eq_ok_iff onceOthers, filled]
  simp only [same.mem_iff]

/-- An attribute that is no field may come and go, as long as its value can be parsed. -/
theorem ofAttributes_unknown {front rest : List Attribute} {a : Attribute}
    (once : ((front ++ a :: rest).map Attribute.key).Nodup) (unknown : fieldType? a.key = none) {v : Json}
    (parsed : Json.parse a.value = .ok v) : ofAttributes (front ++ a :: rest) = ofAttributes (front ++ rest) := by
  have passedOver : isField fields a.key = false := by
    rw [show fields = defaulted fieldSchema standard.members from rfl, isField_defaulted, isSome_lookup_standard, unknown]
    rfl
  simp only [ofAttributes_eq, parseAll_append, parseAll_cons, parsed, ok_bind]
  cases first : parseAll front with
  | error e => rfl
  | ok given =>
    cases second : parseAll rest with
    | error e => rfl
    | ok more =>
      obtain ⟨-, rfl⟩ := parseAll_eq_ok_iff.1 first
      obtain ⟨-, rfl⟩ := parseAll_eq_ok_iff.1 second
      have onceMore : ((front ++ rest).map Attribute.key).Nodup :=
        once.sublist (((List.sublist_cons_self a rest).append_left front).map _)
      rw [← map_saying_keys, List.map_append, List.map_cons] at once
      rw [← map_saying_keys, List.map_append] at onceMore
      have said : saying a = (a.key, v) := by rw [saying, parsed]; rfl
      rw [said] at once
      change codec.ofDictionary (.object (front.map saying ++ (a.key, v) :: rest.map saying)) =
        codec.ofDictionary (.object (front.map saying ++ rest.map saying))
      rw [Decoder.ofDictionary, Decoder.ofDictionary, codec, decodeDictionary_congr once onceMore]
      simp only [fieldMembers, List.filter_append, List.filter_cons, passedOver, Bool.false_eq_true, if_false]
      exact List.Perm.refl _

end Policy

namespace PolicyStore.Resources

open ConfigurationManager.Tables

variable {source : Source}

/-- Attributes are read as a policy if each can be read by itself, and every field of the policy is what its own
    attribute says. A tenant is answered the policy of the attributes that are stored for it, or that these cannot be
    read; it is answered the standard policy only where nothing is stored. -/
theorem policy_read_by_fields (names : Function.Injective source.name) (events : List RegistryEvent) :
    (∀ attributes : List Attribute, (attributes.map Attribute.key).Nodup →
      ((∃ p, Policy.ofAttributes attributes = .ok p) ↔ Policy.Readable attributes) ∧
      (∀ p, Policy.ofAttributes attributes = .ok p → p.Follows attributes) ∧
      (∀ others, attributes.Perm others →
        (Policy.ofAttributes others).toOption = (Policy.ofAttributes attributes).toOption) ∧
      ∀ front a rest, attributes = front ++ a :: rest → Policy.fieldType? a.key = none →
        (∃ v, Json.parse a.value = .ok v) → Policy.ofAttributes (front ++ rest) = Policy.ofAttributes attributes) ∧
    ∀ t ∈ (RegistryEvent.after source events).database.tenants, Text.blank t.domain = false →
      ∃ found, ((manager source).resource? t.id typeName resourceName).run (RegistryEvent.after source events) =
          (.ok found, RegistryEvent.after source events) ∧
        (∀ r, found = some r → (r.attributes.map Attribute.key).Nodup) ∧
        ((Management.onTables source).answer (.policy t.domain)).run (RegistryEvent.after source events) =
          (match found with
            | none => .ok Policy.standard
            | some r => (Policy.ofAttributes r.attributes).mapError fun e => .configuration t.domain (.unreadable e),
            RegistryEvent.after source events) := by
  constructor
  · intro attributes once
    refine ⟨Policy.exists_policy_iff once, fun p read => Policy.follows_of_read once read,
      fun others same => Policy.ofAttributes_perm once same, ?_⟩
    rintro front a rest rfl unknown ⟨v, parsed⟩
    exact (Policy.ofAttributes_unknown once unknown parsed).symm
  · intro t registered named
    have orderly := RegistryEvent.after_orderly names events
    obtain ⟨found, ran, stored⟩ := run_resource? orderly (place t.id)
    refine ⟨found, ran, ?_, ?_⟩
    · rintro r rfl
      exact orderly.filed.keys_nodup stored.symm
    · rw [Management.answer_policy orderly, Management.findTenant_row orderly.toHealthy registered named, ok_bind,
        ← stored]
      cases found with
      | none => rfl
      | some r =>
        change (((Policy.ofAttributes r.attributes).mapError _).mapError _, _) =
          ((Policy.ofAttributes r.attributes).mapError _, _)
        cases Policy.ofAttributes r.attributes <;> rfl

def edited : List RegistryEvent :=
  [.register (.tenantWithId ⟨1⟩ "acme.example"),
    .configure (.addType ⟨typeName, none⟩),
    .configure (.replace ⟨1⟩ typeName ⟨resourceName, [⟨"note", "[null]"⟩]⟩),
    .configure (.addAttribute ⟨1⟩ typeName resourceName ⟨"max_age", " -60 "⟩)]

theorem edited_policy_read :
    Policy.Readable [⟨"note", "[null]"⟩, ⟨"max_age", " -60 "⟩] ∧
    ¬ Policy.Readable [⟨"note", "[null]"⟩, ⟨"max_age", "-60.0"⟩] ∧
    (((Management.onTables .strokes).answer (.policy "acme.example")).run (RegistryEvent.after .strokes edited)).1 =
      .ok { maxAge := -60 } := by
  obtain ⟨byFields, answered⟩ := policy_read_by_fields Source.strokes_names edited
  have good : Policy.ofAttributes [⟨"note", "[null]"⟩, ⟨"max_age", " -60 "⟩] = .ok { maxAge := -60 } := by
    decide +kernel
  have bad : (Policy.ofAttributes [⟨"note", "[null]"⟩, ⟨"max_age", "-60.0"⟩]).isOk = false := by decide +kernel
  refine ⟨(byFields _ (by decide)).1.1 ⟨_, good⟩, fun readable => ?_, ?_⟩
  · obtain ⟨p, read⟩ := (byFields _ (by decide)).1.2 readable
    rw [read] at bad
    cases bad
  · obtain ⟨found, ran, -, served⟩ := answered ⟨⟨1⟩, "acme.example"⟩ (by decide +kernel) (by decide +kernel)
    have stored : (((manager .strokes).resource? ⟨1⟩ typeName resourceName).run
        (RegistryEvent.after .strokes edited)).1.toOption.map (Option.map Resource.attributes) =
          some (some [⟨"note", "[null]"⟩, ⟨"max_age", " -60 "⟩]) := by decide +kernel
    rw [ran] at stored
    obtain ⟨r, rfl, same⟩ := Option.map_eq_some_iff.1 (Option.some.inj stored)
    rw [served]
    change (Policy.ofAttributes r.attributes).mapError _ = _
    rw [same, good, ok_mapError]

end PolicyStore.Resources

end OriginRegistry
