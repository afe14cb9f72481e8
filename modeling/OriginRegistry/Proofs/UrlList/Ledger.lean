import OriginRegistry.Proofs.Registry.Runs
import OriginRegistry.Proofs.UrlList.Replies

set_option autoImplicit false

namespace OriginRegistry

open Function (update update_self update_of_ne)
open UrlList

namespace RegistryEvent

def urls : RegistryEvent → List String
  | .url _ request => request.urls
  | _ => []

/-- Nothing is written past the service of addresses to where it keeps them. -/
def SparesUrls : RegistryEvent → Prop
  | .configure request => ∀ tenant, request.target? ≠ some (place tenant)
  | _ => True

theorem SparesUrls.target?_ne {event : RegistryEvent} (spares : event.SparesUrls)
    (other : ∀ (α : Type) (domain : String) (request : UrlRequest α), event ≠ .url domain request) (db : Database)
    (tenant : TenantId) : event.target? db ≠ some (place tenant) := by
  cases event with
  | manage request =>
    cases request with
    | setPolicy domain policy =>
      intro same
      obtain ⟨_, _, same⟩ := Option.map_eq_some_iff.1 same
      have types : PolicyStore.Resources.typeName = UrlList.typeName := congrArg ResourceKey.resourceType same
      exact absurd types (by decide)
    | _ => exact nofun
  | url domain request => exact absurd rfl (other _ domain request)
  | configure request => exact spares tenant
  | _ => exact nofun

end RegistryEvent

/-- A registry, and beside it the lists that its tenants ought to have. -/
structure UrlLedger where
  lists : TenantId → Option (List String)
  pool : Pool

namespace UrlLedger

def empty : UrlLedger := ⟨fun _ => none, .empty⟩

def step (source : Source) (l : UrlLedger) (event : RegistryEvent) : UrlLedger where
  lists :=
    match event with
    | .url domain request =>
      match l.pool.database.tenantOf? domain with
      | some tenant => update l.lists tenant (request.onList domain (l.lists tenant)).2
      | none => l.lists
    | _ => l.lists
  pool := RegistryEvent.step source l.pool event

def after (source : Source) (events : List RegistryEvent) : UrlLedger := events.foldl (step source) empty

theorem after_pool (source : Source) (events : List RegistryEvent) :
    (after source events).pool = RegistryEvent.after source events :=
  (List.foldl_hom UrlLedger.pool fun _ _ => rfl).symm

structure Faithful (source : Source) (S : Set String) (l : UrlLedger) : Prop where
  orderly : l.pool.Orderly source
  known : ∀ tenant, ∀ listed ∈ l.lists tenant, Lists S listed
  same : ∀ tenant, l.pool.database.contents (place tenant) = (l.lists tenant).map (List.map entry)

variable {source : Source} {S : Set String} {l : UrlLedger}

theorem empty_faithful (source : Source) (S : Set String) : empty.Faithful source S where
  orderly := .empty source
  known := fun _ _ => nofun
  same := fun _ => rfl

/-- A request is answered by the list of its tenant, and this list becomes another. -/
theorem Faithful.answer (h : l.Faithful source S) (names : Function.Injective source.name) (apart : Set.InjOn key S)
    {α : Type} (request : UrlRequest α) (asked : ∀ url ∈ request.urls, url ∈ S) {domain : String} {tenant : TenantId}
    (found : l.pool.database.tenantOf? domain = some tenant) :
    ∃ q, ((UrlService.onTables source).answer domain request).run l.pool =
        ((request.onList domain (l.lists tenant)).1, q) ∧
      l.pool.Refiles source
        (update l.pool.database.contents (place tenant)
          ((request.onList domain (l.lists tenant)).2.map (List.map entry))) q ∧
      (UrlError.Blames (request.onList domain (l.lists tenant)).1 → q = l.pool) := by
  have ended := UrlService.answer_ends h.orderly names found request
  rw [h.same tenant, outcome_eq apart (h.known tenant) request asked] at ended
  exact ended

theorem Faithful.congr (h : l.Faithful source S) {after : UrlLedger} (orderly : after.pool.Orderly source)
    (lists : after.lists = l.lists)
    (stored : ∀ tenant, after.pool.database.contents (place tenant) = l.pool.database.contents (place tenant)) :
    after.Faithful source S where
  orderly := orderly
  known := lists ▸ h.known
  same := fun tenant => by rw [stored, lists, h.same tenant]

theorem step_faithful (h : l.Faithful source S) (names : Function.Injective source.name) (apart : Set.InjOn key S)
    {event : RegistryEvent} (spares : event.SparesUrls) (asked : ∀ url ∈ event.urls, url ∈ S) :
    (l.step source event).Faithful source S := by
  have orderly := RegistryEvent.step_orderly h.orderly names event
  cases event with
  | url domain request =>
    cases found : l.pool.database.tenantOf? domain with
    | none =>
      have lists : (l.step source (.url domain request)).lists = l.lists := by rw [step, found]
      refine h.congr orderly lists fun tenant => ?_
      rw [step, RegistryEvent.step, UrlService.answer_unresolved h.orderly.toHealthy found]
    | some tenant =>
      obtain ⟨q, ran, refiles, _⟩ := h.answer names apart request asked found
      have lists : (l.step source (.url domain request)).lists =
          update l.lists tenant (request.onList domain (l.lists tenant)).2 := by
        rw [step, found]
      have moved : (l.step source (.url domain request)).pool = q := by rw [step, RegistryEvent.step, ran]
      refine ⟨orderly, ?_, fun t => ?_⟩
      · rw [lists]
        refine (Function.forall_update_iff l.lists fun _ listed? => ∀ listed ∈ listed?, Lists S listed).2 ⟨?_, ?_⟩
        · exact onList_lists (h.known tenant) request asked
        · exact fun t _ => h.known t
      · rw [lists, moved, refiles.contents_eq]
        -- lists and places are updated together, as each tenant has a place of its own
        by_cases here : t = tenant
        · rw [here, update_self, update_self]
        · have away : place t ≠ place tenant := fun same => here (congrArg ResourceKey.tenant same)
          rw [update_of_ne away, update_of_ne here, h.same t]
  | _ =>
    refine h.congr orderly rfl fun tenant => RegistryEvent.step_contents h.orderly names _ (spares.target?_ne ?_ _ tenant)
    rintro _ _ _ ⟨⟩

theorem after_faithful (names : Function.Injective source.name) (apart : Set.InjOn key S) (events : List RegistryEvent)
    (spares : ∀ event ∈ events, event.SparesUrls) (asked : ∀ event ∈ events, ∀ url ∈ event.urls, url ∈ S) :
    (after source events).Faithful source S :=
  List.foldlRecOn events (step source) (empty_faithful source S) fun _ h event hevent =>
    step_faithful h names apart (spares event hevent) (asked event hevent)

end UrlLedger

namespace UrlRequest

variable {source : Source} {α : Type}

def occurring (events : List RegistryEvent) (request : UrlRequest α) : Set String :=
  {url | (∃ event ∈ events, url ∈ event.urls) ∨ url ∈ request.urls}

/-- As long as keys tell addresses apart, a tenant has an optional list of different addresses, by which its requests
    are answered and which nothing else changes. A request fails for its own fault only, and changes nothing then. -/
theorem answered_by_list (names : Function.Injective source.name) (events : List RegistryEvent)
    (spares : ∀ event ∈ events, event.SparesUrls) (request : UrlRequest α)
    (apart : Set.InjOn key (request.occurring events)) {domain : String} {tenant : TenantId}
    (registered : (RegistryEvent.after source events).database.tenantOf? domain = some tenant) :
    ∃ q, ((UrlService.onTables source).answer domain request).run (RegistryEvent.after source events) =
        ((request.onList domain ((UrlLedger.after source events).lists tenant)).1, q) ∧
      q.database.contents =
        update (RegistryEvent.after source events).database.contents (place tenant)
          ((request.onList domain ((UrlLedger.after source events).lists tenant)).2.map (List.map entry)) ∧
      ∀ e, (request.onList domain ((UrlLedger.after source events).lists tenant)).1 = .error e →
        e.isClientError = true ∧ q = RegistryEvent.after source events := by
  have faithful : (UrlLedger.after source events).Faithful source (request.occurring events) :=
    UrlLedger.after_faithful names apart events spares fun event hevent url hurl => .inl ⟨event, hevent, hurl⟩
  rw [← UrlLedger.after_pool] at registered ⊢
  obtain ⟨q, ran, refiles, quiet⟩ := faithful.answer names apart request (fun url hurl => .inr hurl) registered
  refine ⟨q, ran, refiles.contents_eq, fun e failed => ?_⟩
  have client := onList_isClientError failed
  exact ⟨client, quiet ⟨e, failed, client⟩⟩

def repeatedUrl : List RegistryEvent := [.register (.tenant "a.com"), .url "a.com" (.set ["", "u", ""])]

theorem repeatedUrl_taken :
    (((UrlService.onTables .strokes).answer "a.com" (.add ["u", ""])).run
      (RegistryEvent.after .strokes repeatedUrl)).1 = .error (.alreadyRegistered "a.com" "u") := by
  have once : ((["", "u"] : List String).map key).Nodup := by decide +kernel
  have inside : (UrlRequest.add ["u", ""]).occurring repeatedUrl ⊆ {url | url ∈ ["", "u"]} := by
    intro url
    simp [occurring, repeatedUrl, RegistryEvent.urls, urls]
    tauto
  have apart : Set.InjOn key ((UrlRequest.add ["u", ""]).occurring repeatedUrl) :=
    fun x hx y hy => List.inj_on_of_nodup_map once (inside hx) (inside hy)
  have spares : ∀ event ∈ repeatedUrl, event.SparesUrls := by simp [repeatedUrl, RegistryEvent.SparesUrls]
  have registered : (RegistryEvent.after .strokes repeatedUrl).database.tenantOf? "a.com" = some ⟨1⟩ := by decide +kernel
  have listed : (UrlLedger.after .strokes repeatedUrl).lists ⟨1⟩ = some ["", "u"] := by decide +kernel
  obtain ⟨q, ran, _⟩ := answered_by_list Source.strokes_names repeatedUrl spares _ apart registered
  rw [ran, listed]
  rfl

end UrlRequest

end OriginRegistry
