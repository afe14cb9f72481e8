import OriginRegistry.Proofs.Json.Records
import OriginRegistry.Proofs.PolicyStore.Outcomes
import OriginRegistry.Proofs.Registry.Runs

set_option autoImplicit false

namespace OriginRegistry

namespace Policy

open Json

def sorted (p : Policy) : List (String × Json) :=
  [("allow_any_origin", .boolean p.allowAnyOrigin),
    ("allow_generic_http_requests", .boolean p.allowGenericRequests),
    ("allow_subdomains", .boolean p.allowSubdomains),
    ("exposed_headers", .texts p.exposedHeaders),
    ("max_age", .ofInt64 p.maxAge),
    ("support_any_header", .boolean p.supportAnyHeader),
    ("supported_headers", .texts p.supportedHeaders),
    ("supported_methods", .texts p.supportedMethods),
    ("supports_credentials", .boolean p.supportsCredentials)]

theorem sortMembers_members (p : Policy) : sortMembers p.members = p.sorted := by
  simp +decide only [Policy.members, sorted, sortMembers, insertMember, List.foldl_cons, List.foldl_nil, if_true,
    if_false]

theorem sortMembers_sorted (p : Policy) : sortMembers p.sorted = p.sorted := by
  simp +decide only [sorted, sortMembers, insertMember, List.foldl_cons, List.foldl_nil, if_false]

theorem sorted_plain (p : Policy) : ∀ m ∈ p.sorted, Plain depthLimit m.2 := by
  simp only [sorted, List.forall_mem_cons, List.not_mem_nil, false_imp_iff, implies_true, and_true]
  have flag (value : Bool) : Plain depthLimit (.boolean value) := .scalar trivial
  exact ⟨flag _, flag _, flag _, plain_texts _, .scalar (isScalar_ofInt64 _), flag _, plain_texts _, plain_texts _,
    flag _⟩

theorem sorted_normal (surplus : Surplus) (p : Policy) :
    ∀ m ∈ p.sorted, ∃ s absence, fields.lookup m.1 = some (s, absence) ∧ decode surplus s m.2 = .ok m.2 := by
  have flag (value : Bool) : decode surplus .boolean (.boolean value) = .ok (.boolean value) := by rw [decode]
  simp only [sorted, List.forall_mem_cons, List.not_mem_nil, false_imp_iff, implies_true, and_true]
  refine ⟨⟨_, _, rfl, flag _⟩, ⟨_, _, rfl, flag _⟩, ⟨_, _, rfl, flag _⟩, ⟨_, _, rfl, decode_texts _⟩,
    ⟨_, _, rfl, decode_ofInt64 _⟩, ⟨_, _, rfl, flag _⟩, ⟨_, _, rfl, decode_texts _⟩, ⟨_, _, rfl, decode_texts _⟩,
    ⟨_, _, rfl, flag _⟩⟩

theorem completeRecord_sorted (p : Policy) : completeRecord p.sorted fields = .ok p.members := by
  rfl

theorem ofJson?_members (p : Policy) : codec.ofJson? (.object p.members) = some p := by
  have methods : member? "supported_methods" (.object p.members) >>= texts? = some p.supportedMethods :=
    texts?_texts p.supportedMethods
  have supported : member? "supported_headers" (.object p.members) >>= texts? = some p.supportedHeaders :=
    texts?_texts p.supportedHeaders
  have exposed : member? "exposed_headers" (.object p.members) >>= texts? = some p.exposedHeaders :=
    texts?_texts p.exposedHeaders
  have age : member? "max_age" (.object p.members) >>= int64? = some p.maxAge := int64?_ofInt64 p.maxAge
  have generic : member? "allow_generic_http_requests" (.object p.members) >>= boolean? = some p.allowGenericRequests := rfl
  have anyOrigin : member? "allow_any_origin" (.object p.members) >>= boolean? = some p.allowAnyOrigin := rfl
  have subdomains : member? "allow_subdomains" (.object p.members) >>= boolean? = some p.allowSubdomains := rfl
  have anyHeader : member? "support_any_header" (.object p.members) >>= boolean? = some p.supportAnyHeader := rfl
  have credentials : member? "supports_credentials" (.object p.members) >>= boolean? = some p.supportsCredentials := rfl
  simp only [codec, methods, supported, exposed, age, generic, anyOrigin, subdomains, anyHeader, credentials]
  rfl

theorem ofDictionary_sorted (p : Policy) : codec.ofDictionary (.object p.sorted) = .ok p := by
  have names : (p.sorted.map Prod.fst).Nodup := by
    simp only [sorted, List.map_cons, List.map_nil]
    decide
  have decoded : decodeDictionary codec.schema (.object p.sorted) = .ok (.object p.members) := by
    simp only [decodeDictionary, sortMembers_sorted, codec]
    rw [decode_record (sorted_normal _ p) names (completeRecord_sorted p), ok_mapError]
  rw [Decoder.ofDictionary, decoded, ok_bind, Decoder.interpret, ofJson?_members]

theorem parseAttributes {members : List (String × Json)} (plain : ∀ m ∈ members, Plain depthLimit m.2) :
    ((members.map fun (name, value) => (⟨name, value.print⟩ : Attribute)).mapM fun a => do
      return (a.key, ← parse a.value)) = .ok members := by
  induction members with
  | nil => rfl
  | cons m members ih =>
    have here := parse_print (plain m List.mem_cons_self)
    have others := ih fun n hn => plain n (List.mem_cons_of_mem m hn)
    simp only [List.map_cons, List.mapM_cons, here, ok_bind, others]
    rfl

theorem ofAttributes_toAttributes (p : Policy) : ofAttributes p.toAttributes = .ok p := by
  rw [ofAttributes, toAttributes, sortMembers_members, parseAttributes p.sorted_plain, ok_bind, ofDictionary_sorted]

end Policy

namespace PolicyStore.Resources

open Function (update)
open ConfigurationManager.Tables

variable {source : Source}

/-- A policy is what its attributes are read as. Whatever was stored for a tenant before, once a policy is set these
    attributes are all that is stored, the policy is what the tenant is answered, and others are answered as before. -/
theorem policy_kept (names : Function.Injective source.name) (events : List RegistryEvent) (tenant : TenantId)
    (policy : Policy) :
    Policy.ofAttributes policy.toAttributes = .ok policy ∧
    ∃ q, ((store (manager source)).answer (.setPolicy tenant policy)).run (RegistryEvent.after source events) =
        (.ok (), q) ∧
      ((store (manager source)).answer (.policy tenant)).run q = (.ok policy, q) ∧
      q.database.contents (place tenant) = some policy.toAttributes ∧
      ∀ other, other ≠ tenant → (((store (manager source)).answer (.policy other)).run q).1 =
        (((store (manager source)).answer (.policy other)).run (RegistryEvent.after source events)).1 := by
  have orderly := RegistryEvent.after_orderly names events
  obtain ⟨q, ran, refiles⟩ := run_setPolicy orderly names tenant policy
  have orderlyThen := refiles.orderly orderly
  have stored : q.database.contents (place tenant) = some policy.toAttributes := by
    rw [refiles.contents_eq, Function.update_self]
  refine ⟨policy.ofAttributes_toAttributes, q, ran, ?_, stored, fun other apart => ?_⟩
  · rw [run_policy orderlyThen, stored, policyOf, policy.ofAttributes_toAttributes]
    rfl
  · have elsewhere : place other ≠ place tenant := fun same => apart (congrArg ResourceKey.tenant same)
    rw [run_policy orderlyThen, run_policy orderly, refiles.contents_eq, Function.update_of_ne elsewhere]

def spoilt : List RegistryEvent :=
  [.configure (.addType ⟨typeName, none⟩),
    .configure (.replace ⟨1⟩ typeName ⟨resourceName, [⟨"max_age", "x"⟩, ⟨"extra", "1"⟩]⟩)]

theorem spoilt_policy_kept :
    (((store (manager .strokes)).answer (.policy ⟨1⟩)).run (RegistryEvent.after .strokes spoilt)).1.isOk = false ∧
    ∃ q, ((store (manager .strokes)).answer (.setPolicy ⟨1⟩
        { supportedHeaders := ["\"\\\x00"], maxAge := Int64.minValue })).run (RegistryEvent.after .strokes spoilt) =
          (.ok (), q) ∧
      ((store (manager .strokes)).answer (.policy ⟨1⟩)).run q =
        (.ok { supportedHeaders := ["\"\\\x00"], maxAge := Int64.minValue }, q) := by
  obtain ⟨_, q, ran, answered, _⟩ := policy_kept Source.strokes_names spoilt ⟨1⟩
    { supportedHeaders := ["\"\\\x00"], maxAge := Int64.minValue }
  exact ⟨by decide +kernel, q, ran, answered⟩

end PolicyStore.Resources

end OriginRegistry
