import OriginRegistry.Model.Resource
import OriginRegistry.Proofs.Json.Shapes
import OriginRegistry.Proofs.Moment
import OriginRegistry.Proofs.PolicyStore.RoundTrip

set_option autoImplicit false

namespace OriginRegistry

open Json

theorem member_bind {α β : Type} {v w : Json} {name : String} {field : Json → Option α} {rest : α → Option β}
    {x : α} {y : β} (found : v.member? name = some w) (back : field w = some x) (others : rest x = some y) :
    (v.member? name >>= field) >>= rest = some y := by
  have read : (v.member? name >>= field) = some x := by rw [found, ← back]; rfl
  rw [read, ← others]
  rfl

theorem reads_boolean (depth : Nat) (value : Bool) :
    ReadsAs (read depth .boolean) (chars (.boolean value)) (.boolean value) :=
  read_scalar depth trivial (by rw [decodeContent, decode])

theorem reads_description (depth : Nat) (value : String) :
    ReadsAs (read depth .optionalText) (chars (.text value)) (.text value) :=
  read_scalar depth trivial (by rw [decodeContent, decode])

theorem reads_texts (depth : Nat) (values : List String) :
    ReadsAs (read (depth + 1) (.list .text)) (chars (.texts values)) (.texts values) :=
  (Codec.Exact.list fun value _ => textCodec_exact depth value).reads

theorem TenantId.codec_exact (depth : Nat) (id : TenantId) : codec.Exact depth id :=
  (int64Codec_exact depth id.val).wrap rfl

theorem ApplicationId.codec_exact (depth : Nat) (id : ApplicationId) : codec.Exact depth id :=
  (int64Codec_exact depth id.val).wrap rfl

theorem OriginId.codec_exact (depth : Nat) (id : OriginId) : codec.Exact depth id :=
  (int64Codec_exact depth id.val).wrap rfl

theorem ExternalId.codec_exact (depth : Nat) (id : ExternalId) : codec.Exact depth id :=
  (textCodec_exact depth id.val).wrap rfl

theorem Moment.codec_exact (depth : Nat) {s : String} {m : Moment} (read : Moment.ofText s = .ok m) :
    codec.Exact depth m where
  reads := by
    refine read_scalar depth trivial ?_
    simp only [decodeContent, codec, decode, ofText_text read]
  back := by
    simp only [codec, text?, Option.bind_eq_bind, Option.bind_some, ofText_text read]

theorem Json.Codec.Exact.record {α : Type} {c : Codec α} {depth : Nat} {x : α} {title : String}
    {fields : Schema.Fields} {members : List (String × Json)} (shape : c.schema = .record title fields)
    (written : c.toJson x = .object members) (each : FieldsRead fields (read depth) members)
    (names : members.map Prod.fst = fields.map Prod.fst) (once : (fields.map Prod.fst).Nodup)
    (completed : completeRecord members fields = .ok members)
    (back : c.ofJson? (.object members) = some x) : c.Exact (depth + 1) x where
  reads := by
    rw [shape, written]
    exact read_record each (names ▸ once) completed
  back := by rw [written, back]

theorem Application.codec_exact (depth : Nat) (a : Application) : codec.Exact (depth + 1) a := by
  have id := ApplicationId.codec_exact depth a.id
  have resourceId := textCodec_exact depth a.resourceId
  have name := textCodec_exact depth a.name
  refine .record rfl rfl ?_ rfl (by decide) rfl ?_
  · exact .cons rfl id.reads <| .cons rfl resourceId.reads <| .cons rfl name.reads .nil
  · exact member_bind rfl id.back <| member_bind rfl resourceId.back <| member_bind rfl name.back rfl

theorem RegisteredOrigin.codec_exact (depth : Nat) (o : RegisteredOrigin) : codec.Exact (depth + 3) o := by
  have id := OriginId.codec_exact (depth + 2) o.id
  have externalId := ExternalId.codec_exact (depth + 2) o.externalId
  have origin := textCodec_exact (depth + 2) o.origin
  have level := reads_boolean (depth + 2) o.tenantLevel
  have applications : Application.codec.list.Exact (depth + 2) o.applications :=
    .list fun a _ => Application.codec_exact depth a
  refine .record rfl rfl ?_ rfl (by decide) rfl ?_
  · exact .cons rfl id.reads <| .cons rfl externalId.reads <| .cons rfl origin.reads <| .cons rfl level <|
      .cons rfl applications.reads .nil
  · exact member_bind rfl id.back <| member_bind rfl externalId.back <| member_bind rfl origin.back <|
      member_bind rfl rfl <| member_bind rfl applications.back rfl

theorem Policy.codec_exact (depth : Nat) (p : Policy) : codec.Exact (depth + 2) p := by
  have flag := reads_boolean (depth + 1)
  have texts := reads_texts depth
  have age := (int64Codec_exact (depth + 1) p.maxAge).reads
  refine .record rfl rfl ?_ rfl (by decide) rfl (ofJson?_members p)
  exact .cons rfl (flag _) <| .cons rfl (flag _) <| .cons rfl (flag _) <| .cons rfl (texts _) <|
    .cons rfl (flag _) <| .cons rfl (texts _) <| .cons rfl (texts _) <| .cons rfl (flag _) <| .cons rfl age .nil

theorem Attribute.codec_exact (depth : Nat) (a : Attribute) : codec.Exact (depth + 1) a := by
  have key := textCodec_exact depth a.key
  have value := textCodec_exact depth a.value
  refine .record rfl rfl ?_ rfl (by decide) rfl ?_
  · exact .cons rfl key.reads <| .cons rfl value.reads .nil
  · exact member_bind rfl key.back <| member_bind rfl value.back rfl

theorem ResourceDraft.codec_exact (depth : Nat) (r : ResourceDraft) : codec.Exact (depth + 3) r := by
  have name := textCodec_exact (depth + 2) r.name
  have attributes : Attribute.codec.list.Exact (depth + 2) r.attributes :=
    .list fun a _ => Attribute.codec_exact depth a
  refine .record rfl rfl ?_ rfl (by decide) rfl ?_
  · exact .cons rfl name.reads <| .cons rfl attributes.reads .nil
  · exact member_bind rfl name.back <| member_bind rfl attributes.back rfl

def Resource.Readable (r : Resource) : Prop :=
  (∃ s, Moment.ofText s = .ok r.createdAt) ∧ ∃ s, Moment.ofText s = .ok r.lastModified

theorem Resource.codec_exact (depth : Nat) {r : Resource} (readable : r.Readable) : codec.Exact (depth + 3) r := by
  obtain ⟨⟨_, created⟩, _, modified⟩ := readable
  have id := textCodec_exact (depth + 2) r.id
  have name := textCodec_exact (depth + 2) r.name
  have resourceType := textCodec_exact (depth + 2) r.resourceType
  have attributes : Attribute.codec.list.Exact (depth + 2) r.attributes :=
    .list fun a _ => Attribute.codec_exact depth a
  have createdAt := Moment.codec_exact (depth + 2) created
  have lastModified := Moment.codec_exact (depth + 2) modified
  refine .record rfl rfl ?_ rfl (by decide) rfl ?_
  · exact .cons rfl id.reads <| .cons rfl name.reads <| .cons rfl resourceType.reads <| .cons rfl attributes.reads <|
      .cons rfl createdAt.reads <| .cons rfl lastModified.reads .nil
  · exact member_bind rfl id.back <| member_bind rfl name.back <| member_bind rfl resourceType.back <|
      member_bind rfl attributes.back <| member_bind rfl createdAt.back <| member_bind rfl lastModified.back rfl

def described (description : Option String) : Json := description.elim .null .text

theorem read_described {depth : Nat} {title : String} {fields : Schema.Fields} (members : List (String × Json))
    (field : fields.lookup "description" = some (.optionalText, .null)) (each : FieldsRead fields (read depth) members)
    (once : (members.map Prod.fst ++ ["description"]).Nodup) {description : Option String}
    (completed : completeRecord (members ++ optionalMember "description" description) fields =
      .ok (members ++ [("description", described description)])) :
    ReadsAs (read (depth + 1) (.record title fields))
      (chars (.object (members ++ optionalMember "description" description)))
      (.object (members ++ [("description", described description)])) := by
  refine read_record (List.forall_mem_append.2 ⟨each, ?_⟩) ?_ completed
  · cases description with
    | none => exact FieldsRead.nil
    | some description => exact FieldsRead.cons field (reads_description depth description) .nil
  · rw [List.map_append]
    cases description with
    | none => exact once.sublist ((List.Sublist.refl _).append (List.nil_sublist _))
    | some description => exact once

theorem ResourceType.parse_print (t : ResourceType) : codec.parse (codec.print t) = .ok t := by
  obtain ⟨id, name, description⟩ := t
  have idReads := (textCodec_exact 126 id).reads
  have nameReads := (textCodec_exact 126 name).reads
  have once : ["id", "name", "description"].Nodup := by decide
  refine Decoder.parse_print (read_described [("id", .text id), ("name", .text name)] rfl
    (.cons rfl idReads <| .cons rfl nameReads .nil) once ?_) ?_ <;> cases description <;> rfl

theorem ResourceTypeDraft.parse_print (t : ResourceTypeDraft) : codec.parse (codec.print t) = .ok t := by
  obtain ⟨name, description⟩ := t
  have nameReads := (textCodec_exact 126 name).reads
  have once : ["name", "description"].Nodup := by decide
  refine Decoder.parse_print (read_described [("name", .text name)] rfl (.cons rfl nameReads .nil) once ?_) ?_ <;>
    cases description <;> rfl

theorem Moment.read_of_field {v : Json} {name : String} {m : Moment} (field : v.field? codec name = some m) :
    ∃ s, ofText s = .ok m := by
  obtain ⟨w, _, back⟩ := Option.bind_eq_some_iff.1 field
  obtain ⟨s, _, back⟩ := Option.bind_eq_some_iff.1 back
  refine ⟨s, ?_⟩
  split at back
  next read =>
    cases back
    exact read
  next => cases back

theorem Resource.readable_of_parse {source : String} {r : Resource} (parsed : codec.parse source = .ok r) :
    r.Readable := by
  obtain ⟨v, back⟩ := Decoder.ofJson?_of_parse parsed
  simp only [codec, Option.bind_eq_bind, Option.bind_eq_some_iff] at back
  obtain ⟨_, _, _, _, _, _, _, _, createdAt, created, lastModified, modified, same⟩ := back
  cases same
  exact ⟨Moment.read_of_field created, Moment.read_of_field modified⟩

/-- The types whose values are exchanged as texts. -/
inductive ModelType
  | tenantId
  | applicationId
  | originId
  | externalId
  | application
  | registeredOrigin
  | policy
  | attribute
  | resourceDraft
  | resourceType
  | resourceTypeDraft
  | resource

namespace ModelType

abbrev Value : ModelType → Type
  | .tenantId => TenantId
  | .applicationId => ApplicationId
  | .originId => OriginId
  | .externalId => ExternalId
  | .application => Application
  | .registeredOrigin => RegisteredOrigin
  | .policy => Policy
  | .attribute => Attribute
  | .resourceDraft => ResourceDraft
  | .resourceType => ResourceType
  | .resourceTypeDraft => ResourceTypeDraft
  | .resource => Resource

def codec : (type : ModelType) → Codec type.Value
  | .tenantId => TenantId.codec
  | .applicationId => ApplicationId.codec
  | .originId => OriginId.codec
  | .externalId => ExternalId.codec
  | .application => Application.codec
  | .registeredOrigin => RegisteredOrigin.codec
  | .policy => Policy.codec
  | .attribute => Attribute.codec
  | .resourceDraft => ResourceDraft.codec
  | .resourceType => ResourceType.codec
  | .resourceTypeDraft => ResourceTypeDraft.codec
  | .resource => Resource.codec

/-- Every value but a resource with a moment that no text is read as. -/
def Readable : (type : ModelType) → type.Value → Prop
  | .resource, r => Resource.Readable r
  | _, _ => True

theorem parse_print : (type : ModelType) → (x : type.Value) → type.Readable x →
    type.codec.parse (type.codec.print x) = .ok x
  | .tenantId, id, _ => (TenantId.codec_exact depthLimit id).parse_print
  | .applicationId, id, _ => (ApplicationId.codec_exact depthLimit id).parse_print
  | .originId, id, _ => (OriginId.codec_exact depthLimit id).parse_print
  | .externalId, id, _ => (ExternalId.codec_exact depthLimit id).parse_print
  | .application, a, _ => (Application.codec_exact 126 a).parse_print
  | .registeredOrigin, o, _ => (RegisteredOrigin.codec_exact 124 o).parse_print
  | .policy, p, _ => (Policy.codec_exact 125 p).parse_print
  | .attribute, a, _ => (Attribute.codec_exact 126 a).parse_print
  | .resourceDraft, r, _ => (ResourceDraft.codec_exact 124 r).parse_print
  | .resourceType, t, _ => t.parse_print
  | .resourceTypeDraft, t, _ => t.parse_print
  | .resource, _, readable => (Resource.codec_exact 124 readable).parse_print

theorem readable_of_parse {type : ModelType} {source : String} {x : type.Value}
    (parsed : type.codec.parse source = .ok x) : type.Readable x := by
  cases type
  case resource => exact Resource.readable_of_parse parsed
  all_goals trivial

def normalise (type : ModelType) (source : String) : Except Json.Error String :=
  (type.codec.parse source).map type.codec.print

/-- Every value is read from its text. What is read from any text is such a value, and its text, whatever the form of
    the first one was, is written again as it is. -/
theorem texts_undone (type : ModelType) :
    (∀ x, type.Readable x → type.codec.parse (type.codec.print x) = .ok x) ∧
    ∀ source x, type.codec.parse source = .ok x →
      type.Readable x ∧ type.codec.parse (type.codec.print x) = .ok x ∧
      type.normalise (type.codec.print x) = .ok (type.codec.print x) := by
  refine ⟨type.parse_print, fun source x parsed => ?_⟩
  have readable := readable_of_parse parsed
  have again := type.parse_print x readable
  refine ⟨readable, again, ?_⟩
  rw [normalise, again]
  rfl

def leaping : Resource :=
  { id := "\"\\\x00", name := "", resourceType := "é", attributes := [⟨"k", "v"⟩, ⟨"k", ""⟩]
    createdAt := ⟨⟨-1, 12, 31⟩, 86340, 1⟩, lastModified := ⟨⟨2016, 12, 31⟩, 86399, 1500000000⟩ }

def leapingText : String :=
  "[\"\\\"\\\\\\u0000\", \"\", \"\\u00e9\", [[\"k\", \"v\"], \x7b\"value\": \"\", \"key\": \"k\"\x7d], " ++
    "\"-1-12-31 23:59:0.000000001Z\", \"2017-1-1t00:59:60.50 +01:00\"]"

theorem leaping_texts_undone :
    (Readable .resource leaping ∧ Resource.codec.parse (Resource.codec.print leaping) = .ok leaping) ∧
    Resource.codec.parse leapingText = .ok leaping ∧
    normalise .resource (Resource.codec.print leaping) = .ok (Resource.codec.print leaping) := by
  have created : Moment.ofText leaping.createdAt.text = .ok leaping.createdAt := by decide +kernel
  have modified : Moment.ofText leaping.lastModified.text = .ok leaping.lastModified := by decide +kernel
  have readable : Readable .resource leaping := ⟨⟨_, created⟩, _, modified⟩
  have parsed : Resource.codec.parse leapingText = .ok leaping := by decide +kernel
  obtain ⟨undone, normal⟩ := texts_undone .resource
  exact ⟨⟨readable, undone leaping readable⟩, parsed, (normal leapingText leaping parsed).2.2⟩

end ModelType

end OriginRegistry
