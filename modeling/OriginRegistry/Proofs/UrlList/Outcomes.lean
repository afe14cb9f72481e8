import OriginRegistry.Proofs.Configuration.Runs
import OriginRegistry.Proofs.Directory.Lookup
import OriginRegistry.UrlList.Service

set_option autoImplicit false

namespace OriginRegistry

open Function (update)

inductive UrlRequest : Type → Type
  | get : UrlRequest (List String)
  | set (urls : List String) : UrlRequest Unit
  | add (urls : List String) : UrlRequest Unit
  | delete (urls : List String) : UrlRequest Unit

namespace UrlService

variable {σ : Type} (s : UrlService σ)

def answer {α : Type} (domain : String) : UrlRequest α → Action σ UrlError α
  | .get => s.get domain
  | .set urls => s.set domain urls
  | .add urls => s.add domain urls
  | .delete urls => s.delete domain urls

def onTables (source : Source) : UrlService Pool :=
  { tenant := Directory.resolvers.tenant, manager := ConfigurationManager.Tables.manager source }

end UrlService

namespace UrlList

def place (tenant : TenantId) : ResourceKey := ⟨tenant, typeName, resourceName⟩

def refill (activity : UrlActivity) (urls : List String) (stored : Option (List Attribute)) :
    Except UrlError Unit × Option (List Attribute) :=
  let entries := (draft resourceName urls).attributes
  if (entries.map Attribute.key).Nodup then (.ok (), some entries)
  else (.error (.configuration activity (.database (.duplicate .attributeKey))), stored)

def enterEach (entries : List Attribute) : List String → Except UrlError Unit × List Attribute
  | [] => (.ok (), entries)
  | url :: urls =>
    if (entry url).key ∈ entries.map Attribute.key then
      (.error (.configuration .adding (.attributeExists resourceName (entry url).key)), entries)
    else enterEach (entries ++ [entry url]) urls

def removeEach (entries : List Attribute) : List String → Except UrlError Unit × List Attribute
  | [] => (.ok (), entries)
  | url :: urls =>
    if key url ∈ entries.map Attribute.key then
      removeEach (entries.filter fun a => !decide (a.key = key url)) urls
    else (.error (.configuration .deleting (.attributeMissing resourceName (key url))), entries)

end UrlList

open UrlList

def UrlRequest.outcome {α : Type} (domain : String) :
    UrlRequest α → Option (List Attribute) → Except UrlError α × Option (List Attribute)
  | .get, none => (.error (.noUrls domain), none)
  | .get, some entries => (.ok (entries.map Attribute.value), some entries)
  | .set urls, stored => refill .updating urls stored
  | .add urls, none => refill .adding (distinct urls) none
  | .add urls, some entries =>
    match (distinct urls).find? fun url => (entries.map Attribute.value).contains url with
    | some url => (.error (.alreadyRegistered domain url), some entries)
    | none => (enterEach entries (distinct urls)).map id some
  | .delete _, none => (.error (.noUrls domain), none)
  | .delete urls, some entries =>
    match (distinct urls).find? fun url => !(entries.map Attribute.value).contains url with
    | some url => (.error (.notRegistered domain url), some entries)
    | none => (removeEach entries (distinct urls)).map id some

def UrlError.Blames {α : Type} (answered : Except UrlError α) : Prop :=
  ∃ e, answered = .error e ∧ e.isClientError = true

namespace UrlList

theorem refill_blameless {activity : UrlActivity} {urls : List String} {stored : Option (List Attribute)} :
    ¬ UrlError.Blames (refill activity urls stored).1 := by
  rintro ⟨e, failed, client⟩
  simp only [refill] at failed
  split at failed <;> cases failed
  cases client

theorem enterEach_blameless {entries : List Attribute} {urls : List String} :
    ¬ UrlError.Blames (enterEach entries urls).1 := by
  induction urls generalizing entries with
  | nil =>
    rintro ⟨e, failed, _⟩
    cases failed
  | cons url urls ih =>
    rw [enterEach]
    split
    · rintro ⟨e, failed, client⟩
      cases failed
      cases client
    · exact ih

theorem removeEach_blameless {entries : List Attribute} {urls : List String} :
    ¬ UrlError.Blames (removeEach entries urls).1 := by
  induction urls generalizing entries with
  | nil =>
    rintro ⟨e, failed, _⟩
    cases failed
  | cons url urls ih =>
    rw [removeEach]
    split
    · exact ih
    · rintro ⟨e, failed, client⟩
      cases failed
      cases client

theorem outcome_add_one {domain url : String} {stored : Option (List Attribute)} {e : UrlError}
    (refused : ((UrlRequest.add [url]).outcome domain stored).1 = .error e) :
    ((UrlRequest.add [url]).outcome domain stored).2 = stored := by
  have one : distinct [url] = [url] := rfl
  cases stored with
  | none =>
    have once : ((draft resourceName [url]).attributes.map Attribute.key).Nodup := List.nodup_singleton _
    have filled : refill .adding [url] none = (.ok (), some [entry url]) := by
      rw [refill, if_pos once]
      rfl
    rw [UrlRequest.outcome, one, filled] at refused
    cases refused
  | some entries =>
    rw [UrlRequest.outcome, one] at refused ⊢
    split
    next => rfl
    next free =>
      rw [free] at refused
      simp only [enterEach] at refused ⊢
      split
      next => rfl
      next new =>
        rw [if_neg new] at refused
        cases refused

theorem outcome_delete_one {domain url : String} {stored : Option (List Attribute)} {e : UrlError}
    (refused : ((UrlRequest.delete [url]).outcome domain stored).1 = .error e) :
    ((UrlRequest.delete [url]).outcome domain stored).2 = stored := by
  have one : distinct [url] = [url] := rfl
  cases stored with
  | none => rfl
  | some entries =>
    rw [UrlRequest.outcome, one] at refused ⊢
    split
    next => rfl
    next there =>
      rw [there] at refused
      simp only [removeEach] at refused ⊢
      split
      next listed =>
        rw [if_pos listed] at refused
        cases refused
      next => rfl

end UrlList

namespace UrlService

open ConfigurationManager.Tables

variable {source : Source} {p : Pool} {tenant : TenantId} {domain : String}

theorem run_resolve (h : p.Healthy) (domain : String) :
    ((onTables source).resolve domain).run p =
      (match p.database.tenantOf? domain with
        | some id => .ok id
        | none => .error (.invalidTenantDomain domain), p) := by
  have asked : ((onTables source).tenant domain).run p = (.ok (p.database.tenantOf? domain), p) := by
    rw [h.eq_open]
    change (Directory.tenantId domain).run _ = _
    rw [Directory.tenantId, Pool.run_query_open, h.consistent.intact.need]
    rfl
  rw [resolve, Action.run_bind, Action.run_mapError, asked]
  cases p.database.tenantOf? domain <;> rfl

/-- How a step on the list of a tenant ends: with an answer, and with other attributes. Where the answer blames the
    request, all is as it was. -/
def Ends (source : Source) (p : Pool) (tenant : TenantId) {α : Type} (a : Action Pool UrlError α)
    (ended : Except UrlError α × Option (List Attribute)) : Prop :=
  ∃ q, a.run p = (ended.1, q) ∧ p.Refiles source (update p.database.contents (place tenant) ended.2) q ∧
    (UrlError.Blames ended.1 → q = p)

theorem ends_of_run (h : p.Orderly source) {α : Type} {a : Action Pool UrlError α}
    {ended : Except UrlError α × Option (List Attribute)} (ran : a.run p = (ended.1, p))
    (same : ended.2 = p.database.contents (place tenant)) : Ends source p tenant a ended := by
  refine ⟨p, ran, ?_, fun _ => rfl⟩
  rw [same, Function.update_eq_self]
  exact .refl h

theorem Ends.after {α β : Type} {first : Action Pool UrlError β} {rest : β → Action Pool UrlError α} {x : β} {q : Pool}
    {now : Option (List Attribute)} {ended : Except UrlError α × Option (List Attribute)}
    (ran : first.run p = (.ok x, q)) (step : p.Refiles source (update p.database.contents (place tenant) now) q)
    (quiet : UrlError.Blames ended.1 → q = p) (ends : Ends source q tenant (rest x) ended) :
    Ends source p tenant (first >>= rest) ended := by
  obtain ⟨r, ranRest, refiles, quietRest⟩ := ends
  refine ⟨r, ?_, ?_, fun blames => (quietRest blames).trans (quiet blames)⟩
  · rw [Action.run_bind_ok ran]
    exact ranRest
  · rw [step.contents_eq, Function.update_idem] at refiles
    exact step.trans refiles

theorem Ends.after_read {α β : Type} {first : Action Pool UrlError β} {rest : β → Action Pool UrlError α} {x : β}
    {ended : Except UrlError α × Option (List Attribute)} (ran : first.run p = (.ok x, p))
    (ends : Ends source p tenant (rest x) ended) : Ends source p tenant (first >>= rest) ended := by
  obtain ⟨q, ranRest, rest⟩ := ends
  exact ⟨q, (Action.run_bind_ok ran).trans ranRest, rest⟩

theorem run_ensure (h : p.Orderly source) (names : Function.Injective source.name) (activity : UrlActivity) :
    ∃ q, ((onTables source).ensureType activity).run p = (.ok (), q) ∧ p.Refiles source p.database.contents q ∧
      (q.database.typeOf? typeName).isSome = true ∧ ((p.database.typeOf? typeName).isSome = true → q = p) := by
  obtain ⟨t, q, ran, step⟩ := run_ensureType h names typeDraft
  exact ⟨q, Action.run_bind_ok (Action.run_mapError_ok ran), step⟩

theorem replace_ends (h : p.Orderly source) (names : Function.Injective source.name)
    (known : (p.database.typeOf? typeName).isSome = true) (tenant : TenantId) (urls : List String)
    (activity : UrlActivity) :
    Ends source p tenant ((onTables source).replace tenant urls activity)
      (refill activity urls (p.database.contents (place tenant))) := by
  have replaced := run_replace h names known tenant (draft resourceName urls)
  simp only [refill]
  split
  next once =>
    rw [if_pos once] at replaced
    obtain ⟨made, q, ran, step⟩ := replaced
    exact ⟨q, Action.run_bind_ok (Action.run_mapError_ok ran), step, nofun⟩
  next twice =>
    rw [if_neg twice] at replaced
    exact ends_of_run h (Action.run_bind_error (Action.run_mapError_error replaced)) rfl

theorem run_resource (h : p.Orderly source) (tenant : TenantId) (activity : UrlActivity) :
    ∃ found : Option Resource, ((onTables source).resource? tenant activity).run p = (.ok found, p) ∧
      found.map Resource.attributes = p.database.contents (place tenant) := by
  obtain ⟨found, ran, stored⟩ := run_resource? h (place tenant)
  exact ⟨found, Action.run_mapError_ok ran, stored⟩

theorem enterEach_ends (h : p.Orderly source) {entries : List Attribute}
    (stored : p.database.contents (place tenant) = some entries) (urls : List String) :
    Ends source p tenant
      (urls.forM fun url => do
        let _ ← ((onTables source).manager.answer
          (.addAttribute tenant typeName resourceName (entry url))).mapError (.configuration .adding))
      ((enterEach entries urls).map id some) := by
  induction urls generalizing p entries with
  | nil =>
    exact ends_of_run h rfl stored.symm
  | cons url urls ih =>
    have added := run_addAttribute h stored (entry url)
    rw [List.forM, enterEach]
    split
    next taken =>
      rw [if_pos taken] at added
      exact ends_of_run h (Action.run_bind_error (Action.run_bind_error (Action.run_mapError_error added))) stored.symm
    next new =>
      rw [if_neg new] at added
      obtain ⟨q, ran, step⟩ := added
      have now : q.database.contents (place tenant) = some (entries ++ [entry url]) := by
        rw [step.contents_eq, Function.update_self]
      exact .after (Action.run_bind_ok (Action.run_mapError_ok ran)) step (absurd · enterEach_blameless)
        (ih (step.orderly h) now)

theorem removeEach_ends (h : p.Orderly source) {entries : List Attribute}
    (stored : p.database.contents (place tenant) = some entries) (urls : List String) :
    Ends source p tenant
      (urls.forM fun url =>
        ((onTables source).manager.answer
          (.deleteAttribute tenant typeName resourceName (key url))).mapError (.configuration .deleting))
      ((removeEach entries urls).map id some) := by
  induction urls generalizing p entries with
  | nil =>
    exact ends_of_run h rfl stored.symm
  | cons url urls ih =>
    have deleted := run_deleteAttribute h stored (key url)
    rw [List.forM, removeEach]
    split
    next taken =>
      rw [if_pos taken] at deleted
      obtain ⟨q, ran, step⟩ := deleted
      have now : q.database.contents (place tenant) = some (entries.filter fun a => !decide (a.key = key url)) := by
        rw [step.contents_eq, Function.update_self]
      exact .after (Action.run_mapError_ok ran) step (absurd · removeEach_blameless) (ih (step.orderly h) now)
    next missing =>
      rw [if_neg missing] at deleted
      exact ends_of_run h (Action.run_bind_error (Action.run_mapError_error deleted)) stored.symm

theorem answer_unresolved (h : p.Healthy) (unknown : p.database.tenantOf? domain = none) {α : Type}
    (request : UrlRequest α) :
    ((onTables source).answer domain request).run p = (.error (.invalidTenantDomain domain), p) := by
  have resolved : ((onTables source).resolve domain).run p = _ := run_resolve h domain
  rw [unknown] at resolved
  cases request <;> exact Action.run_bind_error resolved

/-- A request to a tenant is answered from what is stored for this tenant, and changes nothing else. -/
theorem answer_ends (h : p.Orderly source) (names : Function.Injective source.name)
    (found : p.database.tenantOf? domain = some tenant) {α : Type} (request : UrlRequest α) :
    Ends source p tenant ((onTables source).answer domain request)
      (request.outcome domain (p.database.contents (place tenant))) := by
  have resolved : ((onTables source).resolve domain).run p = (_, p) := run_resolve h.toHealthy domain
  rw [found] at resolved
  cases request with
  | get =>
    obtain ⟨resource?, ran, stored⟩ := run_resource h tenant .getting
    refine .after_read resolved (.after_read ran ?_)
    rw [← stored]
    cases resource? <;> exact ends_of_run h rfl stored
  | set urls =>
    obtain ⟨q, ran, step, known, _⟩ := run_ensure h names .updating
    have replaced := replace_ends (step.orderly h) names known tenant urls .updating
    rw [step.contents_eq] at replaced
    rw [← Function.update_eq_self (place tenant) p.database.contents] at step
    exact .after_read resolved (.after ran step (absurd · refill_blameless) replaced)
  | add urls =>
    obtain ⟨q, ran, step, known, same⟩ := run_ensure h names .adding
    have there := step.orderly h
    obtain ⟨resource?, ranToo, stored⟩ := run_resource there tenant .adding
    have replaced := replace_ends there names known tenant (distinct urls) .adding
    rw [← stored] at replaced
    have before : p.database.contents (place tenant) = resource?.map Resource.attributes :=
      (congrFun step.contents_eq _).symm.trans stored.symm
    rw [← Function.update_eq_self (place tenant) p.database.contents] at step
    refine .after_read resolved ?_
    rw [before]
    cases resource? with
    | none => exact .after ran step (absurd · refill_blameless) (.after_read ranToo replaced)
    | some r =>
      -- there is a resource, so that there is a type, and making sure of it does nothing
      refine .after ran step (fun _ => same (Database.typeOf?_isSome before)) (.after_read ranToo ?_)
      have taken : ((distinct urls).find? fun url => (ofResource r).contains url) =
          (distinct urls).find? fun url => (r.attributes.map Attribute.value).contains url := rfl
      simp only [UrlRequest.outcome, Option.map_some, ← taken]
      cases (distinct urls).find? fun url => (ofResource r).contains url with
      | some url => exact ends_of_run there rfl stored
      | none => exact enterEach_ends there stored.symm (distinct urls)
  | delete urls =>
    obtain ⟨resource?, ran, stored⟩ := run_resource h tenant .deleting
    refine .after_read resolved (.after_read ran ?_)
    rw [← stored]
    cases resource? with
    | none => exact ends_of_run h rfl stored
    | some r =>
      have absent : ((distinct urls).find? fun url => !(ofResource r).contains url) =
          (distinct urls).find? fun url => !(r.attributes.map Attribute.value).contains url := rfl
      simp only [UrlRequest.outcome, Option.map_some, ← absent]
      cases (distinct urls).find? fun url => !(ofResource r).contains url with
      | some url => exact ends_of_run h rfl stored
      | none => exact removeEach_ends h stored.symm (distinct urls)

theorem run_undone (h : p.Orderly source) (names : Function.Injective source.name)
    (found : p.database.tenantOf? domain = some tenant) {α : Type} (request : UrlRequest α) {e : UrlError} {q : Pool}
    (kept : ∀ stored, (request.outcome domain stored).1 = .error e → (request.outcome domain stored).2 = stored)
    (failed : ((onTables source).answer domain request).run p = (.error e, q)) :
    q.database.contents = p.database.contents := by
  obtain ⟨r, ran, refiles, _⟩ := answer_ends h names found request
  obtain ⟨refused, rfl⟩ := Prod.mk.inj (ran.symm.trans failed)
  refine refiles.contents_eq.trans ?_
  rw [kept _ refused, Function.update_eq_self]

/-- Nothing of one address can be half done: where adding it fails, all is stored as it was. -/
theorem addOne_undone (h : p.Orderly source) (names : Function.Injective source.name)
    (found : p.database.tenantOf? domain = some tenant) {url : String} {e : UrlError} {q : Pool}
    (failed : ((onTables source).addOne domain url).run p = (.error e, q)) :
    q.database.contents = p.database.contents :=
  run_undone h names found (.add [url]) (fun _ => outcome_add_one) failed

theorem deleteOne_undone (h : p.Orderly source) (names : Function.Injective source.name)
    (found : p.database.tenantOf? domain = some tenant) {url : String} {e : UrlError} {q : Pool}
    (failed : ((onTables source).deleteOne domain url).run p = (.error e, q)) :
    q.database.contents = p.database.contents :=
  run_undone h names found (.delete [url]) (fun _ => outcome_delete_one) failed

end UrlService

end OriginRegistry
