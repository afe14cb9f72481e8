import OriginRegistry.Proofs.Management.Exchanges

set_option autoImplicit false

namespace OriginRegistry

namespace Management

theorem checkNew_eq_ok_iff {domain : String} {listing : List RegisteredOrigin} {origins : List Origin} :
    checkNew domain listing origins = .ok () ↔ ∀ o ∈ origins, ∀ e ∈ listing, e.origin ≠ o.text := by
  unfold checkNew
  cases found : origins.find? fun o => listing.any fun e => e.origin = o.text with
  | none => simpa using found
  | some o =>
    have member := List.mem_of_find?_eq_some found
    have listed := List.find?_some found
    simp only [List.any_eq_true, decide_eq_true_eq] at listed
    obtain ⟨e, he, same⟩ := listed
    exact iff_of_false nofun fun fresh => fresh o member e he same

theorem internalIds_eq_ok_iff {domain : String} {listing : List RegisteredOrigin} {items : List String}
    {ids : List OriginId} :
    internalIds domain listing items = .ok ids ↔
      (items.map fun item => (listing.find? fun e => e.externalId.val = item).map RegisteredOrigin.id) =
        ids.map some := by
  induction items generalizing ids with
  | nil => cases ids <;> simp [internalIds]
  | cons item items ih =>
    unfold internalIds
    rw [List.map_cons]
    cases listing.find? fun e => e.externalId.val = item with
    | none => cases ids <;> simp
    | some e =>
      rw [map_eq_ok_iff]
      cases ids with
      | nil => simp
      | cons id ids => simp [ih, and_comm]

end Management

namespace OriginChange

variable {c : OriginChange} {tenant : TenantId} {scope : Scope} {listing : List RegisteredOrigin}
  {request : OriginRequest Unit} {log : List OriginExchange}

theorem readOrigins_iff {origins : List Origin} : Management.readOrigins c.items = .ok origins ↔ c.Reads origins := by
  rw [Management.readOrigins_eq_ok_iff, Origin.parseAll_eq_ok_iff]
  simp only [distinct_eq_eraseDups, Reads]

/-- Ids are taken as they are, all else has to be read as origins. -/
def readable (c : OriginChange) : Except ManagementError Unit :=
  match c.kind with
  | .delete => .ok ()
  | _ => (Management.readOrigins c.items).map fun _ => ()

theorem readable_eq_ok_iff : c.readable = .ok () ↔ c.kind = .delete ∨ ∃ origins, c.Reads origins := by
  simp only [← readOrigins_iff]
  cases kind : c.kind <;> simp [readable, kind, map_eq_ok_iff]

def order (c : OriginChange) (tenant : TenantId) (scope : Scope) (listing : List RegisteredOrigin) :
    Except ManagementError (OriginRequest Unit) :=
  match c.kind with
  | .set => do
    let origins ← Management.readOrigins c.items
    return .setFor tenant scope origins
  | .add => do
    let origins ← Management.readOrigins c.items
    Management.checkNew c.domain listing origins
    return .addFor tenant scope origins
  | .delete => do
    let ids ← Management.internalIds c.domain listing c.items
    return .deleteFor tenant scope ids

theorem demands_iff : c.Demands tenant scope log request ↔
    ∃ listing, (c.kind ≠ .set → Lists tenant scope log listing) ∧ c.order tenant scope listing = .ok request := by
  cases kind : c.kind with
  | set =>
    simp only [Demands, order, kind, bind_eq_ok_iff, pure_eq_ok_iff, readOrigins_iff]
    constructor
    · rintro ⟨origins, read, rfl⟩
      exact ⟨[], fun other => absurd rfl other, origins, read, rfl⟩
    · rintro ⟨_, _, origins, read, rfl⟩
      exact ⟨origins, read, rfl⟩
  | add =>
    simp only [Demands, order, kind, bind_eq_ok_iff, pure_eq_ok_iff, readOrigins_iff]
    constructor
    · rintro ⟨origins, listing, read, listed, fresh, rfl⟩
      exact ⟨listing, fun _ => listed, origins, read, (), Management.checkNew_eq_ok_iff.2 fresh, rfl⟩
    · rintro ⟨listing, listed, origins, read, _, checked, rfl⟩
      exact ⟨origins, listing, read, listed nofun, Management.checkNew_eq_ok_iff.1 checked, rfl⟩
  | delete =>
    simp only [Demands, order, kind, bind_eq_ok_iff, pure_eq_ok_iff, Management.internalIds_eq_ok_iff]
    constructor
    · rintro ⟨listing, ids, listed, found, rfl⟩
      exact ⟨listing, fun _ => listed, ids, found, rfl⟩
    · rintro ⟨listing, listed, ids, found, rfl⟩
      exact ⟨listing, ids, listed nofun, found, rfl⟩

theorem readable_of_order (ordered : c.order tenant scope listing = .ok request) : c.readable = .ok () := by
  cases kind : c.kind with
  | delete => simp [readable, kind]
  | _ =>
    simp only [order, kind, bind_eq_ok_iff] at ordered
    obtain ⟨origins, read, _⟩ := ordered
    simp [readable, kind, map_eq_ok_iff, read]

theorem order_of_set (kind : c.kind = .set) (read : c.readable = .ok ()) (tenant : TenantId) (scope : Scope)
    (listing : List RegisteredOrigin) : ∃ request, c.order tenant scope listing = .ok request := by
  simp only [readable, kind, map_eq_ok_iff] at read
  obtain ⟨origins, read, _⟩ := read
  exact ⟨.setFor tenant scope origins, by simp [order, kind, read]⟩

theorem order_set (kind : c.kind = .set) (listing' : List RegisteredOrigin) :
    c.order tenant scope listing' = c.order tenant scope listing := by
  simp [order, kind]

end OriginChange

namespace OriginRequest

variable {tenant : TenantId} {scope : Scope}

theorem call_listFor (answered : Except StorageError (List RegisteredOrigin)) :
    (listFor tenant scope).call answered = .listing (listFor tenant scope) answered := by
  cases scope <;> rfl

theorem call_order {c : OriginChange} {listing : List RegisteredOrigin} {request : OriginRequest Unit}
    (ordered : c.order tenant scope listing = .ok request) (answered : Except StorageError Unit) :
    request.call answered = .change request answered := by
  cases kind : c.kind <;> simp only [OriginChange.order, kind, bind_eq_ok_iff, pure_eq_ok_iff] at ordered
  case set =>
    obtain ⟨_, _, rfl⟩ := ordered
    cases scope <;> rfl
  case add =>
    obtain ⟨_, _, _, _, rfl⟩ := ordered
    cases scope <;> rfl
  case delete =>
    obtain ⟨_, _, rfl⟩ := ordered
    cases scope <;> rfl

end OriginRequest

namespace Management

variable {σ α : Type} (m : Management σ)

def listFirst (c : OriginChange) (tenant : TenantId) (scope : Scope) :
    Action σ ManagementError (List RegisteredOrigin) :=
  match c.kind with
  | .set => pure []
  | _ => m.ask c.domain (.listFor tenant scope)

theorem listFirst_of_set {c : OriginChange} (kind : c.kind = .set) (tenant : TenantId) (scope : Scope) :
    m.listFirst c tenant scope = pure [] := by
  simp only [listFirst, kind]

theorem listFirst_of_ne {c : OriginChange} (kind : c.kind ≠ .set) (tenant : TenantId) (scope : Scope) :
    m.listFirst c tenant scope = m.ask c.domain (.listFor tenant scope) := by
  cases other : c.kind <;> simp_all [listFirst]

theorem changeFor_eq (c : OriginChange) (tenant : TenantId) (scope : Scope) :
    m.changeFor c tenant scope = (do
      Action.answer c.readable
      let listing ← m.listFirst c tenant scope
      let request ← Action.answer (c.order tenant scope listing)
      m.ask c.domain request) := by
  obtain ⟨kind, domain, resourceId?, items⟩ := c
  cases kind with
  | set =>
    simp only [changeFor, OriginChange.readable, listFirst, OriginChange.order]
    cases readOrigins items <;> rfl
  | add =>
    simp only [changeFor, OriginChange.readable, listFirst, OriginChange.order]
    cases readOrigins items with
    | error e => rfl
    | ok origins =>
      change (m.ask domain _ >>= _) = (m.ask domain _ >>= _)
      congr 1
      funext listing
      simp only [ok_bind]
      cases checkNew domain listing origins <;> rfl
  | delete =>
    simp only [changeFor, OriginChange.readable, listFirst, OriginChange.order]
    change (m.ask domain _ >>= _) = (m.ask domain _ >>= _)
    congr 1
    funext listing
    cases internalIds domain listing items <;> rfl

end Management

namespace ManagementRequest

variable {σ α : Type} {m : Management σ} {s : σ} {request : ManagementRequest α} {answered : Except ManagementError α}

theorem Account.silent (mute : ∀ store, m.originStore = .ok store → ¬ request.Asks m s)
    (untold : ∀ told, ¬ request.Tells m s [] told) : request.Account m s answered [] where
  inTurn := List.nil_sublist _
  selected := fun x hx => absurd hx List.not_mem_nil
  admitted := fun x hx => absurd hx List.not_mem_nil
  asked_iff := by
    constructor
    · rintro ⟨x, hx, _⟩
      exact absurd hx List.not_mem_nil
    · rintro ⟨⟨store, present⟩, asks⟩
      exact absurd asks (mute store present)
  told_iff := by
    intro told
    constructor
    · rintro ⟨x, hx, _⟩
      exact absurd hx List.not_mem_nil
    · intro tells
      exact absurd tells (untold told)
  failures := fun x hx => absurd hx List.not_mem_nil

theorem Account.question {call : OriginCall} (read : call.isRead = true) {store : OriginStore σ}
    (present : m.originStore = .ok store) (asks : request.Asks m s) (admitted : request.Admits m s call)
    (untold : ∀ told, ¬ request.Tells m s [⟨m.selectedPlace, call⟩] told)
    (failed : ∀ e, call.failure? = some e → answered = .error (.storage request.key e)) :
    request.Account m s answered [⟨m.selectedPlace, call⟩] where
  inTurn := by simp [read]
  selected := by simp [Management.selectedPlace]
  admitted := by simpa using admitted
  asked_iff := by simp [read, present, asks]
  told_iff := by
    intro told
    constructor
    · rintro ⟨x, hx, result, change⟩
      rw [List.mem_singleton] at hx
      subst hx
      change call = _ at change
      rw [change] at read
      cases read
    · intro tells
      exact absurd tells (untold told)
  failures := by simpa using failed

end ManagementRequest

namespace OriginChange

variable {σ : Type} {m : Management σ} {s : σ} {c : OriginChange} {tenant : TenantId} {scope : Scope}
  {answered : Except ManagementError Unit} {log : List OriginExchange}

theorem tells_iff (found : m.Resolves s c.domain c.resourceId? tenant scope) {told : OriginRequest Unit} :
    (ManagementRequest.change c).Tells m s log told ↔
      (∃ store, m.originStore = .ok store) ∧ c.Demands tenant scope log told := by
  constructor
  · rintro ⟨present, tenant', scope', found', demands⟩
    obtain ⟨rfl, rfl⟩ := found.unique found'
    exact ⟨present, demands⟩
  · rintro ⟨present, demands⟩
    exact ⟨present, tenant, scope, found, demands⟩

theorem asks_iff (found : m.Resolves s c.domain c.resourceId? tenant scope) :
    (ManagementRequest.change c).Asks m s ↔ c.kind ≠ .set ∧ c.readable = .ok () := by
  rw [readable_eq_ok_iff]
  constructor
  · rintro ⟨kind, _, read⟩
    exact ⟨kind, read⟩
  · rintro ⟨kind, read⟩
    exact ⟨kind, ⟨tenant, scope, found⟩, read⟩

theorem account_unresolved (unknown : ∀ tenant scope, ¬ m.Resolves s c.domain c.resourceId? tenant scope) :
    (ManagementRequest.change c).Account m s answered [] := by
  apply ManagementRequest.Account.silent
  · rintro _ _ ⟨_, ⟨tenant, scope, found⟩, _⟩
    exact unknown tenant scope found
  · rintro told ⟨_, tenant, scope, found, _⟩
    exact unknown tenant scope found

theorem account_silent (found : m.Resolves s c.domain c.resourceId? tenant scope)
    (stopped : ∀ store, m.originStore = .ok store → c.readable ≠ .ok ()) :
    (ManagementRequest.change c).Account m s answered [] := by
  apply ManagementRequest.Account.silent
  · intro store present asks
    exact stopped store present ((asks_iff found).1 asks).2
  · intro told tells
    obtain ⟨⟨store, present⟩, demands⟩ := (tells_iff found).1 tells
    obtain ⟨_, _, ordered⟩ := demands_iff.1 demands
    exact stopped store present (readable_of_order ordered)

section Listed

variable {store : OriginStore σ} {result : Except StorageError (List RegisteredOrigin)}

theorem account_listed (found : m.Resolves s c.domain c.resourceId? tenant scope) (kind : c.kind ≠ .set)
    (read : c.readable = .ok ()) (present : m.originStore = .ok store)
    (failed : ∀ e, result = .error e → answered = .error (.storage c.domain e))
    (refused : ∀ listing, result = .ok listing → ∀ request, c.order tenant scope listing ≠ .ok request) :
    (ManagementRequest.change c).Account m s answered [⟨m.selectedPlace, .listing (.listFor tenant scope) result⟩] := by
  apply ManagementRequest.Account.question rfl present
  · exact (asks_iff found).2 ⟨kind, read⟩
  · exact ⟨tenant, scope, found, readable_eq_ok_iff.1 read, .inl ⟨kind, result, rfl⟩⟩
  · intro told tells
    obtain ⟨listing, listed, ordered⟩ := demands_iff.1 ((tells_iff found).1 tells).2
    obtain ⟨x, hx, call⟩ := listed kind
    rw [List.mem_singleton] at hx
    subst hx
    cases call
    exact refused listing rfl told ordered
  · intro e failure
    cases result with
    | error e' =>
      cases failure
      exact failed _ rfl
    | ok listing => cases failure

end Listed

def asked (c : OriginChange) (place : Nat) (tenant : TenantId) (scope : Scope) (listing : List RegisteredOrigin) :
    List OriginExchange :=
  match c.kind with
  | .set => []
  | _ => [⟨place, .listing (.listFor tenant scope) (.ok listing)⟩]

theorem asked_of_set (kind : c.kind = .set) {place : Nat} {listing : List RegisteredOrigin} :
    c.asked place tenant scope listing = [] := by
  simp [asked, kind]

theorem asked_of_ne (kind : c.kind ≠ .set) {place : Nat} {listing : List RegisteredOrigin} :
    c.asked place tenant scope listing = [⟨place, .listing (.listFor tenant scope) (.ok listing)⟩] := by
  cases other : c.kind <;> simp_all [asked]

theorem mem_asked {place : Nat} {listing : List RegisteredOrigin} {x : OriginExchange} :
    x ∈ c.asked place tenant scope listing ↔
      c.kind ≠ .set ∧ x = ⟨place, .listing (.listFor tenant scope) (.ok listing)⟩ := by
  by_cases kind : c.kind = .set
  · simp [asked_of_set kind, kind]
  · simp [asked_of_ne kind, kind]

theorem account_told (found : m.Resolves s c.domain c.resourceId? tenant scope) {store : OriginStore σ}
    (present : m.originStore = .ok store) {listing : List RegisteredOrigin} {request : OriginRequest Unit}
    (ordered : c.order tenant scope listing = .ok request) (result : Except StorageError Unit) :
    (ManagementRequest.change c).Account m s (result.mapError (.storage c.domain))
      (c.asked m.selectedPlace tenant scope listing ++ [⟨m.selectedPlace, .change request result⟩]) := by
  have read : c.readable = .ok () := readable_of_order ordered
  have mem {x : OriginExchange} : x ∈ c.asked m.selectedPlace tenant scope listing ++
      [⟨m.selectedPlace, .change request result⟩] ↔
        (c.kind ≠ .set ∧ x = ⟨m.selectedPlace, .listing (.listFor tenant scope) (.ok listing)⟩) ∨
          x = ⟨m.selectedPlace, .change request result⟩ := by
    rw [List.mem_append, mem_asked, List.mem_singleton]
  constructor
  case inTurn =>
    by_cases kind : c.kind = .set
    · simp [asked_of_set kind, OriginCall.isRead]
    · simp [asked_of_ne kind, OriginCall.isRead]
  case selected =>
    intro x hx
    obtain ⟨_, rfl⟩ | rfl := mem.1 hx <;> rfl
  case admitted =>
    intro x hx
    refine ⟨tenant, scope, found, readable_eq_ok_iff.1 read, ?_⟩
    obtain ⟨kind, rfl⟩ | rfl := mem.1 hx
    · exact .inl ⟨kind, _, rfl⟩
    · exact .inr ⟨request, result, rfl⟩
  case asked_iff =>
    rw [asks_iff found]
    constructor
    · rintro ⟨x, hx, asks⟩
      obtain ⟨kind, rfl⟩ | rfl := mem.1 hx
      · exact ⟨⟨store, present⟩, kind, read⟩
      · cases asks
    · rintro ⟨_, kind, _⟩
      exact ⟨_, mem.2 (.inl ⟨kind, rfl⟩), rfl⟩
  case told_iff =>
    intro told
    rw [tells_iff found, demands_iff]
    constructor
    · rintro ⟨x, hx, answer, call⟩
      obtain ⟨_, rfl⟩ | rfl := mem.1 hx
      · cases call
      · cases call
        exact ⟨⟨store, present⟩, listing, fun kind => ⟨_, mem.2 (.inl ⟨kind, rfl⟩), rfl⟩, ordered⟩
    · rintro ⟨_, listing', listed, ordered'⟩
      have same : c.order tenant scope listing' = c.order tenant scope listing := by
        by_cases kind : c.kind = .set
        · exact order_set kind listing'
        · obtain ⟨x, hx, call⟩ := listed kind
          obtain ⟨_, rfl⟩ | rfl := mem.1 hx
          · cases call
            rfl
          · cases call
      rw [same, ordered] at ordered'
      cases ordered'
      exact ⟨_, mem.2 (.inr rfl), result, rfl⟩
  case failures =>
    intro x hx e failure
    obtain ⟨_, rfl⟩ | rfl := mem.1 hx
    · cases failure
    · cases result with
      | error e' =>
        cases failure
        rfl
      | ok done => cases failure

end OriginChange

namespace Management

variable {σ α : Type} {m : Management σ} {s t : σ}

/-- On the record a step does what it does without, and what it says is as it should be for a request. -/
def Accounted (m : Management σ) (s : σ) (request : ManagementRequest α)
    (onRecord : Action (Recorded σ) ManagementError α) (bare : Action σ ManagementError α) (t : σ) : Prop :=
  ∃ answered u log, onRecord.run ⟨t, []⟩ = (answered, ⟨u, log⟩) ∧ bare.run t = (answered, u) ∧
    request.Account m s answered log

theorem accounted_resolve {request : ManagementRequest α} {domain : String} {resourceId? : Option String}
    {onRecord : TenantId × Scope → Action (Recorded σ) ManagementError α}
    {bare : TenantId × Scope → Action σ ManagementError α}
    (unresolved : (∀ tenant scope, ¬ m.Resolves s domain resourceId? tenant scope) →
      ∀ answered, request.Account m s answered [])
    (resolved : ∀ tenant scope t, m.Resolves s domain resourceId? tenant scope →
      Accounted m s request (onRecord (tenant, scope)) (bare (tenant, scope)) t) :
    Accounted m s request (m.recorded.resolve domain resourceId? >>= onRecord) (m.resolve domain resourceId? >>= bare)
      s := by
  have onRecordRan := resolve_unrecorded m domain resourceId? s []
  cases ran : (m.resolve domain resourceId?).run s with
  | mk result t =>
    rw [ran] at onRecordRan
    cases result with
    | error e =>
      refine ⟨.error e, t, [], Action.run_bind_error onRecordRan, Action.run_bind_error ran, unresolved ?_ _⟩
      intro tenant scope found
      obtain ⟨t', ran'⟩ := resolves_iff.1 found
      rw [ran] at ran'
      cases ran'
    | ok found =>
      obtain ⟨answered, u, log, said, done, account⟩ := resolved found.1 found.2 t (resolves_iff.2 ⟨t, ran⟩)
      exact ⟨answered, u, log, (Action.run_bind_ok onRecordRan).trans said, (Action.run_bind_ok ran).trans done, account⟩

theorem change_eq_resolve (m : Management σ) (c : OriginChange) :
    m.change c = m.resolve c.domain c.resourceId? >>= fun found => m.changeFor c found.1 found.2 := by
  rw [change_eq, resolve]
  simp only [bind_assoc, pure_bind]

theorem listFirst_recorded (m : Management σ) (c : OriginChange) (tenant : TenantId) (scope : Scope) (t : σ) :
    (∃ listing u, (c.kind ≠ .set → ∃ store, m.originStore = .ok store) ∧
      (m.listFirst c tenant scope).run t = (.ok listing, u) ∧
      (m.recorded.listFirst c tenant scope).run ⟨t, []⟩ = (.ok listing, ⟨u, c.asked m.selectedPlace tenant scope listing⟩)) ∨
    (∃ e, c.kind ≠ .set ∧ m.originStore = .error e ∧ (m.listFirst c tenant scope).run t = (.error e, t) ∧
      (m.recorded.listFirst c tenant scope).run ⟨t, []⟩ = (.error e, ⟨t, []⟩)) ∨
    ∃ store e u, c.kind ≠ .set ∧ m.originStore = .ok store ∧
      (m.listFirst c tenant scope).run t = (.error (.storage c.domain e), u) ∧
      (m.recorded.listFirst c tenant scope).run ⟨t, []⟩ =
        (.error (.storage c.domain e), ⟨u, [⟨m.selectedPlace, .listing (.listFor tenant scope) (.error e)⟩]⟩) := by
  by_cases kind : c.kind = .set
  · refine .inl ⟨[], t, fun other => absurd kind other, ?_, ?_⟩
    · rw [listFirst_of_set m kind]
      rfl
    · rw [listFirst_of_set m.recorded kind, OriginChange.asked_of_set kind]
      rfl
  · rw [listFirst_of_ne m kind, listFirst_of_ne m.recorded kind]
    rcases ask_recorded m c.domain (.listFor tenant scope) t with
      ⟨e, missing, ran, said⟩ | ⟨store, result, u, present, ran, said⟩
    · exact .inr (.inl ⟨e, kind, missing, ran, said []⟩)
    · have said := said []
      rw [OriginRequest.call_listFor] at said
      cases result with
      | error e => exact .inr (.inr ⟨store, e, u, kind, present, ran, said⟩)
      | ok listing =>
        refine .inl ⟨listing, u, fun _ => ⟨store, present⟩, ran, ?_⟩
        rw [said, OriginChange.asked_of_ne kind]
        rfl

/-- From its listing on, a change is refused or told to the store. -/
theorem accounted_ordered {c : OriginChange} {tenant : TenantId} {scope : Scope}
    (found : m.Resolves s c.domain c.resourceId? tenant scope) (read : c.readable = .ok ())
    {listing : List RegisteredOrigin} (available : c.kind ≠ .set → ∃ store, m.originStore = .ok store) (t : σ) :
    ∃ answered u log,
      (Action.answer (c.order tenant scope listing) >>= m.recorded.ask c.domain).run
        ⟨t, c.asked m.selectedPlace tenant scope listing⟩ = (answered, ⟨u, log⟩) ∧
      (Action.answer (c.order tenant scope listing) >>= m.ask c.domain).run t = (answered, u) ∧
      (ManagementRequest.change c).Account m s answered log := by
  cases ordered : c.order tenant scope listing with
  | error e =>
    have kind : c.kind ≠ .set := by
      intro kind
      obtain ⟨request, orderedToo⟩ := OriginChange.order_of_set kind read tenant scope listing
      rw [ordered] at orderedToo
      cases orderedToo
    obtain ⟨store, present⟩ := available kind
    refine ⟨.error e, t, _, rfl, rfl, ?_⟩
    rw [OriginChange.asked_of_ne kind]
    apply OriginChange.account_listed found kind read present
    · exact nofun
    · rintro _ ⟨⟩ request other
      rw [ordered] at other
      cases other
  | ok request =>
    rcases ask_recorded m c.domain request t with ⟨e, missing, told, said⟩ |
      ⟨store, result, u, present, told, said⟩
    · have kind : c.kind = .set := by
        by_contra other
        obtain ⟨store, present⟩ := available other
        rw [missing] at present
        cases present
      refine ⟨.error e, t, _, said _, told, ?_⟩
      rw [OriginChange.asked_of_set kind]
      apply OriginChange.account_silent found
      intro store present
      rw [missing] at present
      cases present
    · refine ⟨result.mapError (.storage c.domain), u, _, said _, told, ?_⟩
      rw [OriginRequest.call_order ordered]
      exact OriginChange.account_told found present ordered result

/-- Phase by phase, a change ends with an account of what was said until then. -/
theorem accounted_changeFor {c : OriginChange} {tenant : TenantId} {scope : Scope}
    (found : m.Resolves s c.domain c.resourceId? tenant scope) (t : σ) :
    Accounted m s (.change c) (m.recorded.changeFor c tenant scope) (m.changeFor c tenant scope) t := by
  rw [Accounted, changeFor_eq, changeFor_eq]
  cases read : c.readable with
  | error e =>
    refine ⟨.error e, t, [], rfl, rfl, OriginChange.account_silent found ?_⟩
    intro store present readable
    rw [read] at readable
    cases readable
  | ok done =>
    change ∃ answered u log, (m.recorded.listFirst c tenant scope >>= _).run ⟨t, []⟩ = (answered, ⟨u, log⟩) ∧
      (m.listFirst c tenant scope >>= _).run t = (answered, u) ∧ _
    rcases listFirst_recorded m c tenant scope t with
      ⟨listing, u, available, ran, said⟩ | ⟨e, kind, missing, ran, said⟩ | ⟨store, e, u, kind, present, ran, said⟩
    · rw [Action.run_bind_ok said, Action.run_bind_ok ran]
      exact accounted_ordered found read available u
    · rw [Action.run_bind_error said, Action.run_bind_error ran]
      refine ⟨.error e, t, [], rfl, rfl, OriginChange.account_silent found ?_⟩
      intro store present
      rw [missing] at present
      cases present
    · rw [Action.run_bind_error said, Action.run_bind_error ran]
      refine ⟨.error (.storage c.domain e), u, _, rfl, rfl, ?_⟩
      apply OriginChange.account_listed found kind read present
      · rintro _ ⟨⟩
        rfl
      · exact nofun

theorem tenantOrigins_eq_resolve (m : Management σ) (domain : String) :
    m.tenantOrigins domain = m.resolve domain none >>= fun found => m.ask domain (.listFor found.1 found.2) := by
  simp only [resolve, resolveScope, bind_assoc, pure_bind]
  rfl

theorem applicationOrigins_eq_resolve (m : Management σ) (domain resourceId : String) :
    m.applicationOrigins domain resourceId =
      m.resolve domain (some resourceId) >>= fun found => m.ask domain (.listFor found.1 found.2) := by
  simp only [resolve, resolveScope, bind_assoc, pure_bind]
  rfl

theorem accounted_listing (request : ManagementRequest (List RegisteredOrigin)) {tenant : TenantId} {scope : Scope}
    (asks : request.Asks m s)
    (admits : ∀ answered, request.Admits m s (.listing (.listFor tenant scope) answered))
    (untold : ∀ log told, ¬ request.Tells m s log told) (t : σ) :
    Accounted m s request (m.recorded.ask request.key (.listFor tenant scope))
      (m.ask request.key (.listFor tenant scope)) t := by
  rcases ask_recorded m request.key (.listFor tenant scope) t with ⟨e, missing, ran, said⟩ |
    ⟨store, result, u, present, ran, said⟩
  · refine ⟨.error e, t, [], said [], ran, .silent ?_ (untold [])⟩
    intro store present
    rw [missing] at present
    cases present
  · refine ⟨_, u, _, said [], ran, ?_⟩
    rw [OriginRequest.call_listFor]
    apply ManagementRequest.Account.question rfl present asks (admits result) (untold _)
    intro e failure
    cases result with
    | error e' =>
      cases failure
      rfl
    | ok listing => cases failure

theorem accounted_originApplications (id : String) (s : σ) :
    Accounted m s (.originApplications id) (m.recorded.originApplications id) (m.originApplications id) s := by
  rw [Accounted, originApplications, originApplications]
  rcases ask_recorded m id (.byExternalId ⟨id⟩) s with ⟨e, missing, ran, said⟩ |
    ⟨store, result, u, present, ran, said⟩
  · rw [Action.run_bind_error (said []), Action.run_bind_error ran]
    refine ⟨.error e, s, [], rfl, rfl, .silent ?_ fun _ => not_false⟩
    intro store present
    rw [missing] at present
    cases present
  · have account {answered : Except ManagementError (List Application)}
        (failed : ∀ e, result = .error e → answered = .error (.storage id e)) :
        (ManagementRequest.originApplications id).Account m s answered
          [⟨m.selectedPlace, .lookup (.byExternalId ⟨id⟩) result⟩] := by
      refine ManagementRequest.Account.question rfl present ?_ ?_ ?_ ?_
      · exact trivial
      · exact ⟨result, rfl⟩
      · exact fun _ => not_false
      intro e failure
      cases result with
      | error e' =>
        cases failure
        exact failed _ rfl
      | ok found? => cases failure
    cases result with
    | error e =>
      rw [Action.run_bind_error (said []), Action.run_bind_error ran]
      exact ⟨_, u, _, rfl, rfl, account fun _ same => by cases same; rfl⟩
    | ok found? =>
      rw [Action.run_bind_ok (said []), Action.run_bind_ok ran]
      cases found? <;> exact ⟨_, u, _, rfl, rfl, account nofun⟩

theorem accounted_policy (request : ManagementRequest α) (mute : ¬ request.Asks m s)
    (untold : ∀ log told, ¬ request.Tells m s log told) (domain : String) (asked : TenantId → PolicyRequest α) :
    Accounted m s request (do m.recorded.askPolicy domain (asked (← m.recorded.resolveTenant domain)))
      (do m.askPolicy domain (asked (← m.resolveTenant domain))) s := by
  have same := (resolveTenant_unrecorded m domain).bind fun tenant => askPolicy_unrecorded m domain (asked tenant)
  exact ⟨_, _, [], same s [], rfl, .silent (fun _ _ => mute) (untold [])⟩

/-- Whatever its stores and resolvers answer, the management asks the selected store one question at most, tells it one
    thing at most, and only what every check let through. -/
theorem checks_before_changes (m : Management σ) (request : ManagementRequest α) (s : σ) :
    ∃ answered t log, (m.recorded.answer request).run ⟨s, []⟩ = (answered, ⟨t, log⟩) ∧
      (m.answer request).run s = (answered, t) ∧ request.Account m s answered log := by
  change Accounted m s request (m.recorded.answer request) (m.answer request) s
  cases request with
  | tenantOrigins domain =>
    rw [answer, answer, tenantOrigins_eq_resolve, tenantOrigins_eq_resolve]
    apply accounted_resolve
    · intro unknown answered
      exact .silent (fun _ _ ⟨tenant, found⟩ => unknown tenant _ found) fun _ => not_false
    · intro tenant scope t found
      obtain rfl := found.eq_tenantLevel
      exact accounted_listing (.tenantOrigins domain) ⟨tenant, found⟩ (fun result => ⟨tenant, result, found, rfl⟩)
        (fun _ _ => not_false) t
  | applicationOrigins domain resourceId =>
    rw [answer, answer, applicationOrigins_eq_resolve, applicationOrigins_eq_resolve]
    apply accounted_resolve
    · intro unknown answered
      exact .silent (fun _ _ ⟨tenant, scope, found⟩ => unknown tenant scope found) fun _ => not_false
    · intro tenant scope t found
      obtain ⟨application, rfl⟩ := found.eq_application
      exact accounted_listing (.applicationOrigins domain resourceId) ⟨tenant, _, found⟩
        (fun result => ⟨tenant, application, result, found, rfl⟩) (fun _ _ => not_false) t
  | originApplications id => exact accounted_originApplications id s
  | change c =>
    rw [answer, answer, change_eq_resolve, change_eq_resolve]
    exact accounted_resolve (fun unknown _ => OriginChange.account_unresolved unknown)
      fun tenant scope t found => accounted_changeFor found t
  | policy domain => exact accounted_policy (.policy domain) not_false (fun _ _ => not_false) domain .policy
  | setPolicy domain p => exact accounted_policy (.setPolicy domain p) not_false (fun _ _ => not_false) domain (.setPolicy · p)

end Management

end OriginRegistry
