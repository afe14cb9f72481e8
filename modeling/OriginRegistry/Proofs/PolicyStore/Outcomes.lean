import OriginRegistry.PolicyStore.Resources
import OriginRegistry.Proofs.Configuration.Runs

set_option autoImplicit false

namespace OriginRegistry.PolicyStore.Resources

open Function (update)
open ConfigurationManager.Tables

def place (tenant : TenantId) : ResourceKey := ⟨tenant, typeName, resourceName⟩

def policyOf : Option (List Attribute) → Except ConfigurationError Policy
  | none => .ok Policy.standard
  | some attributes => (Policy.ofAttributes attributes).mapError .unreadable

theorem toAttributes_keys (p : Policy) :
    p.toAttributes.map Attribute.key =
      ["allow_any_origin", "allow_generic_http_requests", "allow_subdomains", "exposed_headers", "max_age",
        "support_any_header", "supported_headers", "supported_methods", "supports_credentials"] := by
  simp +decide only [Policy.toAttributes, Policy.members, Json.sortMembers, Json.insertMember, List.foldl_cons,
    List.foldl_nil, List.map_cons, List.map_nil, if_true, if_false]

theorem toAttributes_nodup (p : Policy) : (p.toAttributes.map Attribute.key).Nodup := by
  rw [toAttributes_keys]
  decide

variable {source : Source} {p : Pool}

theorem run_policy (h : p.Orderly source) (tenant : TenantId) :
    ((store (manager source)).answer (.policy tenant)).run p =
      (policyOf (p.database.contents (place tenant)), p) := by
  obtain ⟨found, ran, stored⟩ := run_resource? h (place tenant)
  refine (Action.run_bind_ok ran).trans ?_
  rw [← stored]
  cases found <;> rfl

theorem run_setPolicy (h : p.Orderly source) (names : Function.Injective source.name) (tenant : TenantId)
    (policy : Policy) :
    ∃ q, ((store (manager source)).answer (.setPolicy tenant policy)).run p = (.ok (), q) ∧
      p.Refiles source (update p.database.contents (place tenant) (some policy.toAttributes)) q := by
  change ∃ q, (setPolicy (manager source) tenant policy).run p = _ ∧ _
  rw [setPolicy]
  -- nothing but the names of the attributes matters
  have once := toAttributes_nodup policy
  generalize policy.toAttributes = attributes at once
  obtain ⟨t, q, ran, step, known, _⟩ := run_ensureType h names typeDraft
  have replaced := run_replace (step.orderly h) names known tenant ⟨resourceName, attributes⟩
  rw [if_pos once] at replaced
  obtain ⟨made, r, ranToo, refiles⟩ := replaced
  rw [step.contents_eq] at refiles
  exact ⟨r, (Action.run_bind_ok ran).trans (Action.run_bind_ok ranToo), step.trans refiles⟩

end OriginRegistry.PolicyStore.Resources
