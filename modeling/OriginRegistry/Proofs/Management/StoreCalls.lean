import OriginRegistry.Proofs.Management.Discipline
import OriginRegistry.Proofs.Management.Selection

set_option autoImplicit false

namespace OriginRegistry

/-- A state beside the stores called so far, which are named by their places among the registrations. -/
structure Traced (σ : Type) where
  state : σ
  calls : List Nat

section

variable {σ α : Type}

def OriginStore.traced (place : Nat) (store : OriginStore σ) : OriginStore (Traced σ) :=
  (store.zoom Traced.state fun state t => { t with state }).watched fun _ t => { t with calls := t.calls ++ [place] }

def PolicyStore.traced (place : Nat) (store : PolicyStore σ) : PolicyStore (Traced σ) :=
  (store.zoom Traced.state fun state t => { t with state }).watched fun _ t => { t with calls := t.calls ++ [place] }

namespace StoreRegistration

def traced (place : Nat) : StoreRegistration σ → StoreRegistration (Traced σ)
  | .origins store => .origins (store.traced place)
  | .policies store => .policies (store.traced place)

@[simp] theorem traced_role (place : Nat) (r : StoreRegistration σ) : (r.traced place).role = r.role := by
  cases r <;> rfl

@[simp] theorem traced_priority (place : Nat) (r : StoreRegistration σ) : (r.traced place).priority = r.priority := by
  cases r <;> rfl

end StoreRegistration

def Management.traced (resolvers : Resolvers σ) (rs : List (StoreRegistration σ)) : Management (Traced σ) :=
  registered (resolvers.zoom Traced.state fun state t => { t with state }) (rs.mapIdx StoreRegistration.traced)

theorem Traced.isPart : Action.IsPart Traced.state fun state (t : Traced σ) => { t with state } where
  get_put := fun _ _ => rfl
  put_put := fun _ _ _ => rfl
  put_get := fun _ => rfl

namespace ManagementRequest

def role : ManagementRequest α → StoreRole
  | .policy _ => .policies
  | .setPolicy _ _ => .policies
  | _ => .origins

def Arrives (m : Management σ) (s : σ) : ManagementRequest α → Prop
  | .tenantOrigins domain => ∃ tenant scope, m.Resolves s domain none tenant scope
  | .applicationOrigins domain resourceId => ∃ tenant scope, m.Resolves s domain (some resourceId) tenant scope
  | .originApplications _ => True
  | .change c => (∃ tenant scope, m.Resolves s c.domain c.resourceId? tenant scope) ∧
      (c.kind = .delete ∨ ∃ origins, c.Reads origins)
  | .policy domain => ∃ tenant scope, m.Resolves s domain none tenant scope
  | .setPolicy domain _ => ∃ tenant scope, m.Resolves s domain none tenant scope

end ManagementRequest

/-- How stores of a role are called for a request, and which answer shows that there is none. -/
structure Served (rs : List (StoreRegistration σ)) (role : StoreRole) (arrives : Prop)
    (answered : Except ManagementError α) (calls : List Nat) : Prop where
  selected : ∀ place ∈ calls, Selected rs role place
  called_iff : calls ≠ [] ↔ arrives ∧ ∃ r ∈ rs, r.role = role
  noStore_iff : ∀ missing, answered = .error (.noStore missing) ↔ arrives ∧ (∀ r ∈ rs, r.role ≠ role) ∧ missing = role

/-- With a trace a request does what it does without, and all that is called serves it. -/
def Serves (rs : List (StoreRegistration σ)) (role : StoreRole) (arrives : Prop)
    (onTrace : Action (Traced σ) ManagementError α) (bare : Action σ ManagementError α) (s : σ) : Prop :=
  ∃ answered t calls, (∀ before, onTrace.run ⟨s, before⟩ = (answered, ⟨t, before ++ calls⟩)) ∧
    bare.run s = (answered, t) ∧ Served rs role arrives answered calls

end

section

variable {σ ε α β : Type}

def NoneMissing (x : Except ManagementError α) : Prop := ∀ role, x ≠ .error (.noStore role)

theorem NoneMissing.error {e : ManagementError} (other : NoneMissing (.error e : Except ManagementError α)) :
    NoneMissing (.error e : Except ManagementError β) :=
  fun role missing => other role (congrArg Except.error (Except.error.inj missing))

theorem noneMissing_mapError {f : ε → ManagementError} (other : ∀ e role, f e ≠ .noStore role) (x : Except ε α) :
    NoneMissing (x.mapError f) := by
  intro role missing
  cases x with
  | error e => exact other e role (Except.error.inj missing)
  | ok a => cases missing

theorem NoneMissing.bind {x : Except ManagementError α} {f : α → Except ManagementError β} (first : NoneMissing x)
    (rest : ∀ a, NoneMissing (f a)) : NoneMissing (x >>= f) := by
  cases x with
  | error e => exact first.error
  | ok a => exact rest a

theorem NoneMissing.map {x : Except ManagementError α} (first : NoneMissing x) (f : α → β) : NoneMissing (x.map f) := by
  cases x with
  | error e => exact first.error
  | ok a => exact nofun

theorem NoneMissing.run_bind {a : Action σ ManagementError α} {f : α → Action σ ManagementError β} {s : σ}
    (first : NoneMissing (a.run s).1) (rest : ∀ x t, NoneMissing ((f x).run t).1) :
    NoneMissing ((a >>= f).run s).1 := by
  rw [Action.run_bind]
  rcases ran : a.run s with ⟨e | x, t⟩
  · rw [ran] at first
    exact first.error
  · exact rest x t

namespace Management

variable {m : Management σ}

theorem resolveTenant_noneMissing (domain : String) (s : σ) : NoneMissing ((m.resolveTenant domain).run s).1 := by
  unfold resolveTenant
  split
  · exact nofun
  · have asked : NoneMissing (((m.resolvers.tenant domain).mapError (.storage domain)).run s).1 :=
      noneMissing_mapError nofun _
    refine asked.run_bind fun found t => ?_
    cases found <;> exact nofun

theorem resolveApplication_noneMissing (domain resourceId : String) (s : σ) :
    NoneMissing ((m.resolveApplication domain resourceId).run s).1 := by
  unfold resolveApplication
  split
  · exact nofun
  · have asked : NoneMissing (((m.resolvers.application domain resourceId).mapError (.storage resourceId)).run s).1 :=
      noneMissing_mapError nofun _
    refine asked.run_bind fun found t => ?_
    cases found <;> exact nofun

theorem resolve_noneMissing (domain : String) (resourceId? : Option String) (s : σ) :
    NoneMissing ((m.resolve domain resourceId?).run s).1 := by
  refine (resolveTenant_noneMissing domain s).run_bind fun tenant t => ?_
  cases resourceId? with
  | none => exact nofun
  | some resourceId =>
    refine NoneMissing.run_bind ?_ fun scope u => nofun
    exact (resolveApplication_noneMissing domain resourceId t).run_bind fun id u => nofun

theorem readOrigins_noneMissing (items : List String) : NoneMissing (readOrigins items) := noneMissing_mapError nofun _

theorem checkNew_noneMissing (domain : String) (listing : List RegisteredOrigin) (origins : List Origin) :
    NoneMissing (checkNew domain listing origins) := by
  unfold checkNew
  split <;> exact nofun

theorem internalIds_noneMissing (domain : String) (listing : List RegisteredOrigin) (items : List String) :
    NoneMissing (internalIds domain listing items) := by
  induction items with
  | nil => exact nofun
  | cons item items ih =>
    unfold internalIds
    split
    · exact nofun
    · exact ih.map _

end Management

namespace OriginChange

theorem readable_noneMissing (c : OriginChange) : NoneMissing c.readable := by
  unfold readable
  split
  · exact nofun
  · exact (Management.readOrigins_noneMissing c.items).map _

theorem order_noneMissing (c : OriginChange) (tenant : TenantId) (scope : Scope) (listing : List RegisteredOrigin) :
    NoneMissing (c.order tenant scope listing) := by
  unfold order
  split
  · exact (Management.readOrigins_noneMissing c.items).bind fun origins => nofun
  · refine (Management.readOrigins_noneMissing c.items).bind fun origins => ?_
    exact (Management.checkNew_noneMissing c.domain listing origins).bind fun _ => nofun
  · exact (Management.internalIds_noneMissing c.domain listing c.items).bind fun ids => nofun

end OriginChange

end

section

variable {σ α β : Type} {rs : List (StoreRegistration σ)} {role : StoreRole} {place : Nat} {arrives : Prop}
  {answered : Except ManagementError α}

theorem Served.idle (stays : ¬ arrives) (other : NoneMissing answered) : Served rs role arrives answered [] where
  selected := nofun
  called_iff := iff_of_false (fun called => called rfl) fun h => stays h.1
  noStore_iff := fun missing => iff_of_false (other missing) fun h => stays h.1

theorem Served.called (selected : Selected rs role place) (other : NoneMissing answered) :
    Served rs role True answered [place] where
  selected := by
    intro place' member
    rw [List.mem_singleton] at member
    rwa [member]
  called_iff := by
    obtain ⟨r, here, isRole, _⟩ := selected
    exact iff_of_true (List.cons_ne_nil place []) ⟨trivial, r, List.mem_of_getElem? here, isRole⟩
  noStore_iff := by
    obtain ⟨r, here, isRole, _⟩ := selected
    exact fun missing => iff_of_false (other missing) fun h => h.2.1 r (List.mem_of_getElem? here) isRole

theorem Served.missing (unmet : ∀ r ∈ rs, r.role ≠ role) :
    Served rs role True (.error (.noStore role) : Except ManagementError α) [] where
  selected := nofun
  called_iff := iff_of_false (fun called => called rfl) fun ⟨_, r, hr, isRole⟩ => unmet r hr isRole
  noStore_iff := by
    intro missing
    constructor
    · rintro ⟨⟩
      exact ⟨trivial, unmet, rfl⟩
    · rintro ⟨_, _, rfl⟩
      rfl

variable {a : Action (Traced σ) ManagementError α} {b : Action σ ManagementError α}
  {f : α → Action (Traced σ) ManagementError β} {g : α → Action σ ManagementError β} {s : σ}

theorem serves_answer {x : Except ManagementError α} (other : NoneMissing x) :
    Serves rs role False (Action.answer x) (Action.answer x) s :=
  ⟨x, s, [], fun before => by rw [List.append_nil, Action.run_answer], rfl, .idle not_false other⟩

/-- Once a store is reached, the rest of a request may call it again but cannot miss it. -/
theorem Serves.bind (first : Serves rs role True a b s) (rest : ∀ x t, ∃ later, Serves rs role later (f x) (g x) t) :
    Serves rs role True (a >>= f) (b >>= g) s := by
  obtain ⟨answered, t, calls, onTrace, bare, served⟩ := first
  cases answered with
  | error e =>
    refine ⟨.error e, t, calls, fun before => Action.run_bind_error (onTrace before), Action.run_bind_error bare, ?_⟩
    refine ⟨served.selected, served.called_iff, fun missing => ?_⟩
    rw [← served.noStore_iff missing, Except.error.injEq, Except.error.injEq]
  | ok x =>
    obtain ⟨later, answered, u, more, onTrace', bare', served'⟩ := rest x t
    -- Only a store gives an answer, so from here on there is one.
    have present : ∃ r ∈ rs, r.role = role := by
      by_contra absent
      have missing := (served.noStore_iff role).2 ⟨trivial, fun r hr isRole => absent ⟨r, hr, isRole⟩, rfl⟩
      cases missing
    refine ⟨answered, u, calls ++ more, fun before => ?_, (Action.run_bind_ok bare).trans bare', ?_, ?_, ?_⟩
    · rw [Action.run_bind_ok (onTrace before), onTrace', List.append_assoc]
    · intro place called
      rcases List.mem_append.1 called with called | called
      · exact served.selected place called
      · exact served'.selected place called
    · have called := served.called_iff.2 ⟨trivial, present⟩
      exact iff_of_true (List.append_ne_nil_of_left_ne_nil called more) ⟨trivial, present⟩
    · obtain ⟨r, hr, isRole⟩ := present
      intro missing
      rw [served'.noStore_iff missing]
      exact iff_of_false (fun h => h.2.1 r hr isRole) fun h => h.2.1 r hr isRole

theorem serves_opening (zooms : Action.Zooms Traced.state (fun state (t : Traced σ) => { t with state }) a b)
    (other : NoneMissing (b.run s).1) (stopped : ∀ e t, b.run s = (.error e, t) → ¬ arrives)
    (passed : ∀ x t, b.run s = (.ok x, t) → Serves rs role arrives (f x) (g x) t) :
    Serves rs role arrives (a >>= f) (b >>= g) s := by
  have onTrace (before : List Nat) : a.run ⟨s, before⟩ = ((b.run s).1, ⟨(b.run s).2, before⟩) := zooms ⟨s, before⟩
  rcases ran : b.run s with ⟨e | x, t⟩
  · rw [ran] at onTrace other
    refine ⟨.error e, t, [], fun before => ?_, Action.run_bind_error ran, .idle (stopped e t ran) ?_⟩
    · rw [Action.run_bind_error (onTrace before), List.append_nil]
    · exact NoneMissing.error other
  · rw [ran] at onTrace
    obtain ⟨answered, u, calls, onTrace', bare, served⟩ := passed x t ran
    exact ⟨answered, u, calls, fun before => (Action.run_bind_ok (onTrace before)).trans (onTrace' before),
      (Action.run_bind_ok ran).trans bare, served⟩

theorem serves_contact
    (called : ∀ place, Selected rs role place → ∃ answered t, NoneMissing answered ∧
      (∀ before, a.run ⟨s, before⟩ = (answered, ⟨t, before ++ [place]⟩)) ∧ b.run s = (answered, t))
    (missed : (∀ r ∈ rs, r.role ≠ role) →
      (∀ before, a.run ⟨s, before⟩ = (.error (.noStore role), ⟨s, before⟩)) ∧ b.run s = (.error (.noStore role), s)) :
    Serves rs role True a b s := by
  by_cases present : ∃ r ∈ rs, r.role = role
  · obtain ⟨r, hr, rfl⟩ := present
    obtain ⟨place, selected⟩ := exists_selected hr
    obtain ⟨answered, t, other, onTrace, bare⟩ := called place selected
    exact ⟨answered, t, [place], onTrace, bare, .called selected other⟩
  · have unmet : ∀ r ∈ rs, r.role ≠ role := fun r hr isRole => present ⟨r, hr, isRole⟩
    obtain ⟨onTrace, bare⟩ := missed unmet
    refine ⟨.error (.noStore role), s, [], fun before => ?_, bare, .missing unmet⟩
    rw [onTrace before, List.append_nil]

theorem getElem?_traced {r : StoreRegistration σ} (here : rs[place]? = some r) :
    (rs.mapIdx StoreRegistration.traced)[place]? = some (r.traced place) := by
  rw [List.getElem?_mapIdx, here]
  rfl

theorem selected_traced (selected : Selected rs role place) :
    Selected (rs.mapIdx StoreRegistration.traced) role place := by
  obtain ⟨r, here, isRole, top⟩ := selected
  refine ⟨r.traced place, getElem?_traced here, (r.traced_role place).trans isRole, ?_⟩
  intro other x found isRole'
  rw [List.getElem?_mapIdx, Option.map_eq_some_iff] at found
  obtain ⟨x, found, rfl⟩ := found
  rw [StoreRegistration.traced_role] at isRole'
  rw [StoreRegistration.traced_priority, StoreRegistration.traced_priority]
  exact top other x found isRole'

theorem unmet_traced (unmet : ∀ r ∈ rs, r.role ≠ role) : ∀ r ∈ rs.mapIdx StoreRegistration.traced, r.role ≠ role := by
  intro r hr
  obtain ⟨n, bound, rfl⟩ := List.mem_mapIdx.1 hr
  rw [StoreRegistration.traced_role]
  exact unmet _ (List.getElem_mem bound)

end

namespace Management

variable {σ α : Type} {resolvers : Resolvers σ} {rs : List (StoreRegistration σ)}

theorem ask_serves (key : String) (request : OriginRequest α) (s : σ) :
    Serves rs .origins True ((traced resolvers rs).ask key request) ((registered resolvers rs).ask key request) s := by
  apply serves_contact
  · intro place selected
    obtain ⟨store, here⟩ := selected.exists_originStore
    have bare : (registered resolvers rs).originStore = .ok store := originStore_of_selected selected here
    have onTrace : (traced resolvers rs).originStore = .ok (store.traced place) :=
      originStore_of_selected (selected_traced selected) (getElem?_traced here)
    refine ⟨((store.answer request).run s).1.mapError (.storage key), ((store.answer request).run s).2,
      noneMissing_mapError nofun _, ?_, ?_⟩
    · simp only [ask, onTrace]
      exact fun _ => rfl
    · simp only [ask, bare]
      rfl
  · intro unmet
    have bare : (registered resolvers rs).originStore = _ := originStore_eq_error_iff.2 ⟨unmet, rfl⟩
    have onTrace : (traced resolvers rs).originStore = _ := originStore_eq_error_iff.2 ⟨unmet_traced unmet, rfl⟩
    constructor
    · simp only [ask, onTrace]
      exact fun _ => rfl
    · simp only [ask, bare]
      rfl

theorem askPolicy_serves (key : String) (request : PolicyRequest α) (s : σ) :
    Serves rs .policies True ((traced resolvers rs).askPolicy key request)
      ((registered resolvers rs).askPolicy key request) s := by
  apply serves_contact
  · intro place selected
    obtain ⟨store, here⟩ := selected.exists_policyStore
    have bare : (registered resolvers rs).policyStore = .ok store := policyStore_of_selected selected here
    have onTrace : (traced resolvers rs).policyStore = .ok (store.traced place) :=
      policyStore_of_selected (selected_traced selected) (getElem?_traced here)
    refine ⟨((store.answer request).run s).1.mapError (.configuration key), ((store.answer request).run s).2,
      noneMissing_mapError nofun _, ?_, ?_⟩
    · simp only [askPolicy, onTrace]
      exact fun _ => rfl
    · simp only [askPolicy, bare]
      rfl
  · intro unmet
    have bare : (registered resolvers rs).policyStore = _ := policyStore_eq_error_iff.2 ⟨unmet, rfl⟩
    have onTrace : (traced resolvers rs).policyStore = _ := policyStore_eq_error_iff.2 ⟨unmet_traced unmet, rfl⟩
    constructor
    · simp only [askPolicy, onTrace]
      exact fun _ => rfl
    · simp only [askPolicy, bare]
      rfl

theorem resolve_serves {role : StoreRole} {arrives : Prop} {domain : String} {resourceId? : Option String}
    {f : TenantId × Scope → Action (Traced σ) ManagementError α} {g : TenantId × Scope → Action σ ManagementError α}
    {s : σ} (known : arrives → ∃ tenant scope, (registered resolvers rs).Resolves s domain resourceId? tenant scope)
    (resolved : ∀ tenant scope t, (registered resolvers rs).Resolves s domain resourceId? tenant scope →
      Serves rs role arrives (f (tenant, scope)) (g (tenant, scope)) t) :
    Serves rs role arrives ((traced resolvers rs).resolve domain resourceId? >>= f)
      ((registered resolvers rs).resolve domain resourceId? >>= g) s := by
  have same : (traced resolvers rs).resolvers =
      (registered resolvers rs).resolvers.zoom Traced.state fun state t => { t with state } := by
    rw [traced, registered_resolvers, registered_resolvers]
  apply serves_opening (resolve_zooms Traced.isPart same domain resourceId?) (resolve_noneMissing domain resourceId? s)
  · intro e t ran arrives
    obtain ⟨tenant, scope, found⟩ := known arrives
    obtain ⟨t', ran'⟩ := resolves_iff.1 found
    rw [ran] at ran'
    cases ran'
  · rintro ⟨tenant, scope⟩ t ran
    exact resolved tenant scope t (resolves_iff.2 ⟨t, ran⟩)

theorem serves_once_resolved {role : StoreRole} {domain : String} {resourceId? : Option String}
    {f : TenantId × Scope → Action (Traced σ) ManagementError α} {g : TenantId × Scope → Action σ ManagementError α}
    (resolved : ∀ found t, Serves rs role True (f found) (g found) t) (s : σ) :
    Serves rs role (∃ tenant scope, (registered resolvers rs).Resolves s domain resourceId? tenant scope)
      ((traced resolvers rs).resolve domain resourceId? >>= f)
      ((registered resolvers rs).resolve domain resourceId? >>= g) s := by
  refine resolve_serves id fun tenant scope t found => ?_
  have known : ∃ tenant scope, (registered resolvers rs).Resolves s domain resourceId? tenant scope :=
    ⟨tenant, scope, found⟩
  rw [eq_true known]
  exact resolved (tenant, scope) t

theorem changeFor_serves (c : OriginChange) (tenant : TenantId) (scope : Scope) (s : σ) :
    Serves rs .origins (c.readable = .ok ()) ((traced resolvers rs).changeFor c tenant scope)
      ((registered resolvers rs).changeFor c tenant scope) s := by
  rw [changeFor_eq, changeFor_eq]
  apply serves_opening (Traced.isPart.answer c.readable) c.readable_noneMissing
  · intro e t ran read
    rw [Action.run_answer, read] at ran
    cases ran
  · intro _ t ran
    have read : c.readable = .ok () := congrArg Prod.fst ran
    rw [eq_true read]
    -- The store is reached with the change itself if that needs no listing, and with the question for one otherwise.
    by_cases kind : c.kind = .set
    · obtain ⟨request, ordered⟩ := OriginChange.order_of_set kind read tenant scope []
      rw [listFirst_of_set _ kind, listFirst_of_set _ kind, pure_bind, pure_bind, ordered]
      exact ask_serves c.domain request t
    · rw [listFirst_of_ne _ kind, listFirst_of_ne _ kind]
      refine (ask_serves c.domain (.listFor tenant scope) t).bind fun listing u => ?_
      cases ordered : c.order tenant scope listing with
      | error e =>
        have refused := c.order_noneMissing tenant scope listing
        rw [ordered] at refused
        exact ⟨False, serves_answer refused.error⟩
      | ok request => exact ⟨True, ask_serves c.domain request u⟩

theorem policy_eq_resolve (m : Management σ) (domain : String) :
    m.policy domain = m.resolve domain none >>= fun found => m.askPolicy domain (.policy found.1) := by
  simp only [resolve, resolveScope, bind_assoc, pure_bind]
  rfl

theorem setPolicy_eq_resolve (m : Management σ) (domain : String) (p : Policy) :
    m.setPolicy domain p = m.resolve domain none >>= fun found => m.askPolicy domain (.setPolicy found.1 p) := by
  simp only [resolve, resolveScope, bind_assoc, pure_bind]
  rfl

/-- Whatever the stores answer, only the one that is selected for the role of a request is called for it. -/
theorem answer_serves (request : ManagementRequest α) (s : σ) :
    Serves rs request.role (request.Arrives (registered resolvers rs) s) ((traced resolvers rs).answer request)
      ((registered resolvers rs).answer request) s := by
  cases request with
  | tenantOrigins domain =>
    rw [answer, answer, tenantOrigins_eq_resolve, tenantOrigins_eq_resolve]
    exact serves_once_resolved (fun found t => ask_serves domain (.listFor found.1 found.2) t) s
  | applicationOrigins domain resourceId =>
    rw [answer, answer, applicationOrigins_eq_resolve, applicationOrigins_eq_resolve]
    exact serves_once_resolved (fun found t => ask_serves domain (.listFor found.1 found.2) t) s
  | originApplications id =>
    refine (ask_serves id (.byExternalId ⟨id⟩) s).bind fun found t => ⟨False, ?_⟩
    cases found with
    | none =>
      apply serves_answer
      rintro role ⟨⟩
    | some o =>
      apply serves_answer
      rintro role ⟨⟩
  | change c =>
    rw [answer, answer, change_eq_resolve, change_eq_resolve]
    refine resolve_serves And.left fun tenant scope t found => ?_
    have known : ∃ tenant scope, (registered resolvers rs).Resolves s c.domain c.resourceId? tenant scope :=
      ⟨tenant, scope, found⟩
    rw [ManagementRequest.Arrives, eq_true known, true_and, ← OriginChange.readable_eq_ok_iff]
    exact changeFor_serves c tenant scope t
  | policy domain =>
    rw [answer, answer, policy_eq_resolve, policy_eq_resolve]
    exact serves_once_resolved (fun found t => askPolicy_serves domain (.policy found.1) t) s
  | setPolicy domain p =>
    rw [answer, answer, setPolicy_eq_resolve, setPolicy_eq_resolve]
    exact serves_once_resolved (fun found t => askPolicy_serves domain (.setPolicy found.1 p) t) s

section Alike

variable {m m' : Management σ}

theorem resolve_congr (same : m'.resolvers = m.resolvers) (domain : String) (resourceId? : Option String) :
    m'.resolve domain resourceId? = m.resolve domain resourceId? := by
  unfold resolve resolveTenant
  cases resourceId? <;> simp only [resolveScope, resolveApplication, same]

theorem ask_congr (same : m'.originStore = m.originStore) (key : String) (request : OriginRequest α) :
    m'.ask key request = m.ask key request := by
  unfold ask
  rw [same]

theorem askPolicy_congr (same : m'.policyStore = m.policyStore) (key : String) (request : PolicyRequest α) :
    m'.askPolicy key request = m.askPolicy key request := by
  unfold askPolicy
  rw [same]

/-- How a request is answered depends on the selected store of its role only. -/
theorem answer_congr (same : m'.resolvers = m.resolvers) (request : ManagementRequest α)
    (origins : request.role = .origins → m'.originStore = m.originStore)
    (policies : request.role = .policies → m'.policyStore = m.policyStore) : m'.answer request = m.answer request := by
  cases request with
  | tenantOrigins domain =>
    simp only [answer, tenantOrigins_eq_resolve, resolve_congr same, ask_congr (origins rfl)]
  | applicationOrigins domain resourceId =>
    simp only [answer, applicationOrigins_eq_resolve, resolve_congr same, ask_congr (origins rfl)]
  | originApplications id => simp only [answer, originApplications, ask_congr (origins rfl)]
  | change c =>
    simp only [answer, change_eq_resolve, changeFor, resolve_congr same, ask_congr (origins rfl)]
  | policy domain => simp only [answer, policy_eq_resolve, resolve_congr same, askPolicy_congr (policies rfl)]
  | setPolicy domain p => simp only [answer, setPolicy_eq_resolve, resolve_congr same, askPolicy_congr (policies rfl)]

end Alike

theorem answer_alone {request : ManagementRequest α} {place : Nat} {r : StoreRegistration σ}
    (selected : Selected rs request.role place) (here : rs[place]? = some r) :
    (registered resolvers rs).answer request = (registered resolvers [r]).answer request := by
  apply answer_congr
  · rw [registered_resolvers, registered_resolvers]
  · intro role
    rw [role] at selected
    obtain ⟨store, there⟩ := selected.exists_originStore
    cases here.symm.trans there
    rw [originStore_of_selected selected here, originStore_of_selected selected_singleton rfl]
  · intro role
    rw [role] at selected
    obtain ⟨store, there⟩ := selected.exists_policyStore
    cases here.symm.trans there
    rw [policyStore_of_selected selected here, policyStore_of_selected selected_singleton rfl]

def stateAfter (m : Management σ) (s : σ) (requests : List (Σ α : Type, ManagementRequest α)) : σ :=
  requests.foldl (fun s request => ((m.answer request.2).run s).2) s

theorem stateAfter_traced (requests : List (Σ α : Type, ManagementRequest α)) (s : σ) (before : List Nat) :
    ∃ calls, (traced resolvers rs).stateAfter ⟨s, before⟩ requests =
        ⟨(registered resolvers rs).stateAfter s requests, before ++ calls⟩ ∧
      ∀ place ∈ calls, ∃ request ∈ requests, Selected rs request.2.role place := by
  induction requests generalizing s before with
  | nil => exact ⟨[], by rw [List.append_nil]; rfl, nofun⟩
  | cons request requests ih =>
    obtain ⟨answered, t, calls, onTrace, bare, served⟩ := answer_serves request.2 s
    obtain ⟨more, later, selected⟩ := ih t (before ++ calls)
    refine ⟨calls ++ more, ?_, fun place called => ?_⟩
    · simp only [stateAfter, List.foldl_cons] at later ⊢
      rw [onTrace before, bare, later, List.append_assoc]
    · rcases List.mem_append.1 called with called | called
      · exact ⟨request, List.mem_cons_self, served.selected place called⟩
      · obtain ⟨other, member, chosen⟩ := selected place called
        exact ⟨other, List.mem_cons_of_mem request member, chosen⟩

structure Holds (m : Management σ) (rs : List (StoreRegistration σ)) : Prop where
  origins : m.originStores.Perm (rs.filterMap StoreRegistration.originStore?)
  policies : m.policyStores.Perm (rs.filterMap StoreRegistration.policyStore?)
  origins_ascending : m.originStores.Pairwise fun s t => s.priority ≤ t.priority
  policies_ascending : m.policyStores.Pairwise fun s t => s.priority ≤ t.priority
  originStore_error : ∀ e, m.originStore = .error e ↔ (∀ r ∈ rs, r.role ≠ .origins) ∧ e = .noStore .origins
  policyStore_error : ∀ e, m.policyStore = .error e ↔ (∀ r ∈ rs, r.role ≠ .policies) ∧ e = .noStore .policies

theorem registered_holds (resolvers : Resolvers σ) (rs : List (StoreRegistration σ)) :
    (registered resolvers rs).Holds rs where
  origins := by
    rw [registered_originStores]
    exact placed_perm _
  policies := by
    rw [registered_policyStores]
    exact placed_perm _
  origins_ascending := by
    rw [registered_originStores]
    exact placed_ascending _
  policies_ascending := by
    rw [registered_policyStores]
    exact placed_ascending _
  originStore_error := fun _ => originStore_eq_error_iff
  policyStore_error := fun _ => policyStore_eq_error_iff

/-- In whatever order stores are registered, one place is selected for each role that has any, that of the highest
    priority and of these the latest. A request is answered as if its store were the only one, and throughout a run no
    other store is called. -/
theorem latest_of_highest_serves (resolvers : Resolvers σ) (rs : List (StoreRegistration σ)) :
    (registered resolvers rs).Holds rs ∧
    (∀ role, (∃ r ∈ rs, r.role = role) → ∃! place, Selected rs role place) ∧
    (∀ {α : Type} (request : ManagementRequest α) (s : σ),
      Serves rs request.role (request.Arrives (registered resolvers rs) s) ((traced resolvers rs).answer request)
        ((registered resolvers rs).answer request) s) ∧
    (∀ {α : Type} (request : ManagementRequest α) (place : Nat) (r : StoreRegistration σ),
      Selected rs request.role place → rs[place]? = some r →
        (registered resolvers rs).answer request = (registered resolvers [r]).answer request) ∧
    ∀ (requests : List (Σ α : Type, ManagementRequest α)) (s : σ), ∃ calls,
      (traced resolvers rs).stateAfter ⟨s, []⟩ requests = ⟨(registered resolvers rs).stateAfter s requests, calls⟩ ∧
        ∀ place ∈ calls, ∃ request ∈ requests, Selected rs request.2.role place := by
  refine ⟨registered_holds resolvers rs, ?_, fun request s => answer_serves request s, ?_, ?_⟩
  · rintro _ ⟨r, hr, rfl⟩
    obtain ⟨place, selected⟩ := exists_selected hr
    exact ⟨place, selected, fun other selected' => selected.unique selected'⟩
  · exact fun request place r selected here => answer_alone selected here
  · exact fun requests s => stateAfter_traced requests s []

def rivals : List (StoreRegistration Unit) :=
  [.origins (.fixed 7 []), .policies (.fixed 3 .standard),
    .origins (OriginStore.failing (fun _ => some (.notFound "Tenant" "1")) (.fixed 7 [])),
    .policies (.fixed (-1) .standard), .origins (.fixed (-7) [])]

def anyTenant : Resolvers Unit where
  tenant := fun _ => pure (some ⟨1⟩)
  application := fun _ _ => pure none

theorem failing_rival_serves :
    Selected rivals .origins 2 ∧
      ((traced anyTenant rivals).tenantOrigins "acme.com").run ⟨(), []⟩ =
        (.error (.storage "acme.com" (.notFound "Tenant" "1")), ⟨(), [2]⟩) ∧
      ((registered anyTenant [rivals[1]]).tenantOrigins "acme.com").run () = (.error (.noStore .origins), ()) := by
  have ran : ((traced anyTenant rivals).answer (.tenantOrigins "acme.com")).run ⟨(), []⟩ =
      (.error (.storage "acme.com" (.notFound "Tenant" "1")), ⟨(), [2]⟩) := by rfl
  obtain ⟨_, _, serves, _⟩ := latest_of_highest_serves anyTenant rivals
  obtain ⟨_, _, calls, onTrace, _, served⟩ := serves (.tenantOrigins "acme.com") ()
  have said := ran.symm.trans (onTrace [])
  cases said
  exact ⟨served.selected 2 List.mem_cons_self, ran, rfl⟩

end Management

end OriginRegistry
