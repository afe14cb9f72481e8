import Mathlib.Data.Set.Function
import OriginRegistry.Proofs.UrlList.Outcomes

set_option autoImplicit false

namespace OriginRegistry

namespace UrlRequest

variable {α : Type}

def urls : UrlRequest α → List String
  | .get => []
  | .set urls | .add urls | .delete urls => urls

def onList (domain : String) : UrlRequest α → Option (List String) → Except UrlError α × Option (List String)
  | .get, none => (.error (.noUrls domain), none)
  | .get, some listed => (.ok listed, some listed)
  | .set urls, _ => (.ok (), some urls.eraseDups)
  | .add urls, listed? =>
    match urls.find? fun url => url ∈ listed?.getD [] with
    | some url => (.error (.alreadyRegistered domain url), listed?)
    | none => (.ok (), some (listed?.getD [] ++ urls.eraseDups))
  | .delete _, none => (.error (.noUrls domain), none)
  | .delete urls, some listed =>
    match urls.find? fun url => url ∉ listed with
    | some url => (.error (.notRegistered domain url), some listed)
    | none => (.ok (), some (listed.filter fun url => url ∉ urls))

theorem onList_isClientError {domain : String} {request : UrlRequest α} {listed? : Option (List String)} {e : UrlError}
    (failed : (request.onList domain listed?).1 = .error e) : e.isClientError = true := by
  cases request with
  | get =>
    cases listed? <;> cases failed
    rfl
  | set urls => cases failed
  | add urls =>
    rw [onList] at failed
    split at failed <;> cases failed
    rfl
  | delete urls =>
    cases listed? with
    | none =>
      cases failed
      rfl
    | some listed =>
      rw [onList] at failed
      split at failed <;> cases failed
      rfl

end UrlRequest

namespace UrlList

variable {α : Type} {S : Set String} {listed urls : List String} {domain : String}

def Lists (S : Set String) (listed : List String) : Prop := listed.Nodup ∧ ∀ url ∈ listed, url ∈ S

theorem values_entries (urls : List String) : (urls.map entry).map Attribute.value = urls := by
  rw [List.map_map]
  exact List.map_id urls

theorem keys_entries (urls : List String) : (urls.map entry).map Attribute.key = urls.map key := List.map_map ..

theorem key_mem_iff (apart : Set.InjOn key S) (inside : ∀ url ∈ listed, url ∈ S) {url : String} (hurl : url ∈ S) :
    key url ∈ (listed.map entry).map Attribute.key ↔ url ∈ listed := by
  rw [keys_entries, List.mem_map]
  constructor
  · rintro ⟨other, hother, same⟩
    exact apart (inside other hother) hurl same ▸ hother
  · exact fun there => ⟨url, there, rfl⟩

theorem keys_nodup (apart : Set.InjOn key S) (lists : Lists S listed) :
    ((listed.map entry).map Attribute.key).Nodup := by
  rw [keys_entries]
  exact lists.1.map_on fun url hurl other hother => apart (lists.2 url hurl) (lists.2 other hother)

theorem lists_distinct (inside : ∀ url ∈ urls, url ∈ S) : Lists S (distinct urls) :=
  ⟨distinct_nodup urls, fun url hurl => inside url (mem_distinct.1 hurl)⟩

theorem refill_eq (apart : Set.InjOn key S) (inside : ∀ url ∈ urls, url ∈ S) (activity : UrlActivity)
    (stored : Option (List Attribute)) :
    refill activity urls stored = (.ok (), some (urls.eraseDups.map entry)) := by
  have once : ((draft resourceName urls).attributes.map Attribute.key).Nodup :=
    keys_nodup apart (lists_distinct inside)
  rw [← distinct_eq_eraseDups]
  exact if_pos once

theorem enterEach_eq (apart : Set.InjOn key S) (all : Lists S (listed ++ urls)) :
    enterEach (listed.map entry) urls = (.ok (), (listed ++ urls).map entry) := by
  induction urls generalizing listed with
  | nil => rw [enterEach, List.append_nil]
  | cons url urls ih =>
    have inside : ∀ other ∈ listed, other ∈ S := fun other hother => all.2 other (List.mem_append_left _ hother)
    have new : key url ∉ (listed.map entry).map Attribute.key := by
      rw [key_mem_iff apart inside (all.2 url (by simp))]
      exact fun there => (List.nodup_append.1 all.1).2.2 url there url List.mem_cons_self rfl
    have moved : listed ++ url :: urls = (listed ++ [url]) ++ urls := List.append_cons ..
    have next : listed.map entry ++ [entry url] = (listed ++ [url]).map entry := by rw [List.map_append]; rfl
    -- what is entered goes over to what is listed, so that the whole stays the same list
    rw [enterEach, entry, if_neg new, ← entry, next, moved, ih (moved ▸ all)]

theorem removeEach_eq (apart : Set.InjOn key S) (lists : Lists S listed) (once : urls.Nodup)
    (there : ∀ url ∈ urls, url ∈ listed) :
    removeEach (listed.map entry) urls = (.ok (), (listed.filter fun url => url ∉ urls).map entry) := by
  induction urls generalizing listed with
  | nil => simp [removeEach]
  | cons url urls ih =>
    have here : url ∈ listed := there url List.mem_cons_self
    have found : key url ∈ (listed.map entry).map Attribute.key :=
      (key_mem_iff apart lists.2 (lists.2 url here)).2 here
    have left : (listed.map entry).filter (fun a => !decide (a.key = key url)) =
        (listed.filter fun other => other ≠ url).map entry := by
      rw [List.filter_map]
      refine congrArg (List.map entry) (List.filter_congr fun other hother => ?_)
      have same : key other = key url ↔ other = url :=
        ⟨fun same => apart (lists.2 other hother) (lists.2 url here) same, congrArg key⟩
      simp [entry, same]
    obtain ⟨other, once⟩ := List.nodup_cons.1 once
    have stays : ∀ x ∈ urls, x ∈ listed.filter fun other => other ≠ url := by
      intro x hx
      rw [List.mem_filter, decide_eq_true_eq]
      exact ⟨there x (List.mem_cons_of_mem url hx), fun same => other (same ▸ hx)⟩
    have fewer : Lists S (listed.filter fun other => other ≠ url) :=
      ⟨lists.1.filter _, fun x hx => lists.2 x (List.mem_of_mem_filter hx)⟩
    rw [removeEach, if_pos found, left, ih fewer once stays, List.filter_filter]
    refine congrArg (fun rest : List String => (Except.ok (), rest.map entry)) (List.filter_congr fun x _ => ?_)
    simp [Bool.and_comm]

theorem Lists.append (lists : Lists S listed) (inside : ∀ url ∈ urls, url ∈ S) (new : ∀ url ∈ urls, url ∉ listed) :
    Lists S (listed ++ distinct urls) := by
  obtain ⟨once, added⟩ := lists_distinct inside
  refine ⟨List.nodup_append.2 ⟨lists.1, once, fun url hurl other hother same => ?_⟩, fun url hurl => ?_⟩
  · exact new other (mem_distinct.1 hother) (same ▸ hurl)
  · exact (List.mem_append.1 hurl).elim (lists.2 url) (added url)

theorem onList_lists {listed? : Option (List String)} (lists : ∀ listed ∈ listed?, Lists S listed)
    (request : UrlRequest α) (asked : ∀ url ∈ request.urls, url ∈ S) :
    ∀ listed ∈ (request.onList domain listed?).2, Lists S listed := by
  cases request with
  | get => cases listed? <;> exact lists
  | set urls =>
    rintro _ ⟨⟩
    rw [← distinct_eq_eraseDups]
    exact lists_distinct asked
  | add urls =>
    have nothing : Lists S (listed?.getD []) := by
      cases listed? with
      | none => exact ⟨List.nodup_nil, nofun⟩
      | some listed => exact lists listed rfl
    rw [UrlRequest.onList]
    split
    next => exact lists
    next free =>
      rintro _ ⟨⟩
      rw [← distinct_eq_eraseDups]
      exact nothing.append asked fun url hurl there => List.find?_eq_none.1 free url hurl (decide_eq_true there)
  | delete urls =>
    cases listed? with
    | none => exact lists
    | some listed =>
      rw [UrlRequest.onList]
      split
      next => exact lists
      next =>
        rintro _ ⟨⟩
        obtain ⟨once, inside⟩ := lists listed rfl
        exact ⟨once.filter _, fun url hurl => inside url (List.mem_of_mem_filter hurl)⟩

theorem outcome_eq (apart : Set.InjOn key S) {listed? : Option (List String)}
    (lists : ∀ listed ∈ listed?, Lists S listed) (request : UrlRequest α) (asked : ∀ url ∈ request.urls, url ∈ S) :
    request.outcome domain (listed?.map (List.map entry)) =
      (request.onList domain listed?).map id (Option.map (List.map entry)) := by
  cases request with
  | get =>
    cases listed? with
    | none => rfl
    | some listed => exact congrArg (fun values => (Except.ok values, _)) (values_entries listed)
  | set urls => exact refill_eq apart asked .updating _
  | add urls =>
    cases listed? with
    | none =>
      have filled := refill_eq apart (fun url hurl => asked url (mem_distinct.1 hurl)) .adding none
      have once : (distinct urls).eraseDups = urls.eraseDups := by
        rw [← distinct_eq_eraseDups, distinct_of_nodup (distinct_nodup urls), distinct_eq_eraseDups]
      have free : urls.find? (fun url => decide (url ∈ ([] : List String))) = none := by simp
      simp only [UrlRequest.onList, Option.getD_none, free, List.nil_append]
      exact once ▸ filled
    | some listed =>
      simp only [UrlRequest.outcome, UrlRequest.onList, Option.map_some, Option.getD_some, find?_distinct, values_entries,
        List.contains_eq_mem]
      cases free : urls.find? fun url => decide (url ∈ listed) with
      | some url => rfl
      | none =>
        have new : ∀ url ∈ urls, url ∉ listed := fun url hurl there =>
          List.find?_eq_none.1 free url hurl (decide_eq_true there)
        have entered := enterEach_eq apart ((lists listed rfl).append asked new)
        rw [distinct_eq_eraseDups] at entered ⊢
        exact congrArg (Prod.map id some) entered
  | delete urls =>
    cases listed? with
    | none => rfl
    | some listed =>
      simp only [UrlRequest.outcome, UrlRequest.onList, Option.map_some, find?_distinct, values_entries,
        List.contains_eq_mem, ← decide_not]
      cases present : urls.find? fun url => decide (url ∉ listed) with
      | some url => rfl
      | none =>
        have there : ∀ url ∈ distinct urls, url ∈ listed := fun url hurl => by
          simpa using List.find?_eq_none.1 present url (mem_distinct.1 hurl)
        have removed := removeEach_eq apart (lists listed rfl) (distinct_nodup urls) there
        simp only [mem_distinct] at removed
        exact congrArg (Prod.map id some) removed

end UrlList

end OriginRegistry
