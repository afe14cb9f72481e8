import OriginRegistry.Proofs.Registry.Runs

/-!
# Where a change of several addresses breaks off

A request is checked against the addresses of a list, but it is carried out under their keys, one address after the
other. What was stored past the service may have a key that is not the one of its address. Such a request can pass its
check, go some of its way, and fail: here it is said exactly when it does, and that all other failures change nothing.
-/

set_option autoImplicit false

namespace OriginRegistry

namespace UrlList

variable {entries : List Attribute} {urls : List String}

theorem head?_distinct (urls : List String) : (distinct urls).head? = urls.head? := by
  cases urls with
  | nil => rfl
  | cons url urls => simp [distinct, distinctAfter]

theorem enterEach_extends (entries : List Attribute) (urls : List String) : entries <+: (enterEach entries urls).2 := by
  induction urls generalizing entries with
  | nil => exact List.prefix_rfl
  | cons url urls ih =>
    rw [enterEach]
    split
    · exact List.prefix_rfl
    · exact (List.prefix_append entries [entry url]).trans (ih (entries ++ [entry url]))

theorem enterEach_fails_iff (once : (entries.map Attribute.key).Nodup) :
    (∃ e, (enterEach entries urls).1 = .error e) ↔ ¬ (entries.map Attribute.key ++ urls.map key).Nodup := by
  induction urls generalizing entries with
  | nil => simp [enterEach, once]
  | cons url urls ih =>
    rw [enterEach]
    by_cases taken : (entry url).key ∈ entries.map Attribute.key
    · have twice : ¬ (entries.map Attribute.key ++ (url :: urls).map key).Nodup := by
        intro all
        have apart := (List.nodup_append.1 all).2.2
        exact apart (key url) taken (key url) (by simp) rfl
      rw [if_pos taken]
      exact iff_of_true ⟨_, rfl⟩ twice
    · have moved : (entries ++ [entry url]).map Attribute.key ++ urls.map key =
          entries.map Attribute.key ++ (url :: urls).map key := by
        simp [entry]
      have next := ih (Database.keys_append_nodup once taken)
      rw [if_neg taken, next, moved]

theorem enterEach_changes_iff :
    (enterEach entries urls).2 ≠ entries ↔ ∃ first ∈ urls.head?, key first ∉ entries.map Attribute.key := by
  cases urls with
  | nil => simp [enterEach]
  | cons url urls =>
    rw [enterEach]
    by_cases taken : (entry url).key ∈ entries.map Attribute.key
    · rw [if_pos taken]
      refine iff_of_false (fun other => other rfl) ?_
      rintro ⟨first, here, new⟩
      exact new (Option.some.inj here ▸ taken)
    · have new : key url ∉ entries.map Attribute.key := taken
      have more := (enterEach_extends (entries ++ [entry url]) urls).length_le
      have other : (enterEach (entries ++ [entry url]) urls).2 ≠ entries := by
        intro same
        rw [same, List.length_append, List.length_singleton] at more
        omega
      rw [if_neg taken]
      exact iff_of_true other ⟨url, rfl, new⟩

theorem removeEach_sublist (entries : List Attribute) (urls : List String) :
    (removeEach entries urls).2.Sublist entries := by
  induction urls generalizing entries with
  | nil => exact List.Sublist.refl entries
  | cons url urls ih =>
    rw [removeEach]
    split
    · exact (ih _).trans List.filter_sublist
    · exact List.Sublist.refl entries

theorem key_mem_filter {gone other : String} :
    other ∈ (entries.filter fun a => !decide (a.key = gone)).map Attribute.key ↔
      other ∈ entries.map Attribute.key ∧ other ≠ gone := by
  simp only [List.mem_map, List.mem_filter, Bool.not_eq_true', decide_eq_false_iff_not]
  constructor
  · rintro ⟨a, ⟨ha, kept⟩, rfl⟩
    exact ⟨⟨a, ha, rfl⟩, kept⟩
  · rintro ⟨⟨a, ha, rfl⟩, kept⟩
    exact ⟨a, ⟨ha, kept⟩, rfl⟩

theorem removeEach_fails_iff :
    (∃ e, (removeEach entries urls).1 = .error e) ↔
      (∃ url ∈ urls, key url ∉ entries.map Attribute.key) ∨ ¬ (urls.map key).Nodup := by
  induction urls generalizing entries with
  | nil => simp [removeEach]
  | cons url urls ih =>
    rw [removeEach]
    by_cases there : key url ∈ entries.map Attribute.key
    · rw [if_pos there, ih, List.map_cons, List.nodup_cons, not_and_or, not_not]
      constructor
      · rintro (⟨other, hother, missing⟩ | twice)
        · -- a key that is gone is missed by those addresses behind that share it
          by_cases same : key other = key url
          · exact .inr (.inl (same ▸ List.mem_map_of_mem hother))
          · have absent : key other ∉ entries.map Attribute.key := fun known =>
              missing (key_mem_filter.2 ⟨known, same⟩)
            exact .inl ⟨other, List.mem_cons_of_mem url hother, absent⟩
        · exact .inr (.inr twice)
      · rintro (⟨other, hother, absent⟩ | shared | twice)
        · rcases List.mem_cons.1 hother with rfl | behind
          · exact absurd there absent
          · exact .inl ⟨other, behind, fun kept => absent (key_mem_filter.1 kept).1⟩
        · obtain ⟨other, behind, same⟩ := List.mem_map.1 shared
          exact .inl ⟨other, behind, fun kept => (key_mem_filter.1 kept).2 same⟩
        · exact .inr twice
    · rw [if_neg there]
      exact iff_of_true ⟨_, rfl⟩ (.inl ⟨url, List.mem_cons_self, there⟩)

theorem removeEach_changes_iff :
    (removeEach entries urls).2 ≠ entries ↔ ∃ first ∈ urls.head?, key first ∈ entries.map Attribute.key := by
  cases urls with
  | nil => simp [removeEach]
  | cons url urls =>
    rw [removeEach]
    by_cases there : key url ∈ entries.map Attribute.key
    · have other : (removeEach (entries.filter fun a => !decide (a.key = key url)) urls).2 ≠ entries := by
        intro same
        have kept := (removeEach_sublist (entries.filter fun a => !decide (a.key = key url)) urls).map Attribute.key
        rw [same] at kept
        exact (key_mem_filter.1 (kept.subset there)).2 rfl
      rw [if_pos there]
      exact iff_of_true other ⟨url, rfl, there⟩
    · rw [if_neg there]
      refine iff_of_false (fun other => other rfl) ?_
      rintro ⟨first, here, known⟩
      exact there (Option.some.inj here ▸ known)

end UrlList

open UrlList

namespace UrlRequest

variable {α : Type} {domain : String} {entries : List Attribute}

/-- Whether a request passes its check, is carried out for its first address, and then comes to an address whose key
    stands in its way. -/
def BreaksOff (entries : List Attribute) : UrlRequest α → Prop
  | .add urls =>
    (∀ url ∈ urls, url ∉ entries.map Attribute.value) ∧
      (∃ first ∈ urls.head?, key first ∉ entries.map Attribute.key) ∧
      ¬ (entries.map Attribute.key ++ (distinct urls).map key).Nodup
  | .delete urls =>
    (∀ url ∈ urls, url ∈ entries.map Attribute.value) ∧
      (∃ first ∈ urls.head?, key first ∈ entries.map Attribute.key) ∧
      ((∃ url ∈ urls, key url ∉ entries.map Attribute.key) ∨ ¬ ((distinct urls).map key).Nodup)
  | _ => False

theorem refill_unchanged {activity : UrlActivity} {urls : List String} {stored : Option (List Attribute)} {e : UrlError}
    (failed : (refill activity urls stored).1 = .error e) : (refill activity urls stored).2 = stored := by
  simp only [refill] at failed ⊢
  split
  next once =>
    rw [if_pos once] at failed
    cases failed
  next => rfl

theorem outcome_breaksOff_iff (once : (entries.map Attribute.key).Nodup) (request : UrlRequest α) :
    (∃ e, (request.outcome domain (some entries)).1 = .error e) ∧
        (request.outcome domain (some entries)).2 ≠ some entries ↔ request.BreaksOff entries := by
  cases request with
  | get => simp [outcome, BreaksOff]
  | set urls =>
    refine iff_of_false ?_ id
    rintro ⟨⟨e, failed⟩, changed⟩
    exact changed (refill_unchanged failed)
  | add urls =>
    simp only [outcome, BreaksOff, List.contains_eq_mem]
    cases hit : (distinct urls).find? fun url => decide (url ∈ entries.map Attribute.value) with
    | some url =>
      have here : url ∈ urls := mem_distinct.1 (List.mem_of_find?_eq_some hit)
      have known : url ∈ entries.map Attribute.value := by simpa using List.find?_some hit
      refine iff_of_false (fun torn => torn.2 rfl) ?_
      rintro ⟨free, _⟩
      exact free url here known
    | none =>
      have free : ∀ url ∈ urls, url ∉ entries.map Attribute.value := by
        intro url hurl known
        exact List.find?_eq_none.1 hit url (mem_distinct.2 hurl) (decide_eq_true known)
      simp only [Prod.map_fst, Prod.map_snd, id_eq, ne_eq, Option.some.injEq]
      rw [enterEach_fails_iff once, ← ne_eq, enterEach_changes_iff, head?_distinct]
      constructor
      · rintro ⟨later, first⟩
        exact ⟨free, first, later⟩
      · rintro ⟨_, first, later⟩
        exact ⟨later, first⟩
  | delete urls =>
    simp only [outcome, BreaksOff, List.contains_eq_mem]
    cases hit : (distinct urls).find? fun url => !decide (url ∈ entries.map Attribute.value) with
    | some url =>
      have here : url ∈ urls := mem_distinct.1 (List.mem_of_find?_eq_some hit)
      have absent : url ∉ entries.map Attribute.value := by simpa using List.find?_some hit
      refine iff_of_false (fun torn => torn.2 rfl) ?_
      rintro ⟨listed, _⟩
      exact absent (listed url here)
    | none =>
      have listed : ∀ url ∈ urls, url ∈ entries.map Attribute.value := by
        intro url hurl
        have found := List.find?_eq_none.1 hit url (mem_distinct.2 hurl)
        simpa using found
      simp only [Prod.map_fst, Prod.map_snd, id_eq, ne_eq, Option.some.injEq]
      rw [removeEach_fails_iff, ← ne_eq, removeEach_changes_iff, head?_distinct]
      simp only [mem_distinct]
      constructor
      · rintro ⟨later, first⟩
        exact ⟨listed, first, later⟩
      · rintro ⟨_, first, later⟩
        exact ⟨later, first⟩

/-- A list that is not there yet is made as a whole. -/
theorem outcome_none_unchanged {e : UrlError} {request : UrlRequest α}
    (failed : (request.outcome domain none).1 = .error e) : (request.outcome domain none).2 = none := by
  cases request with
  | get => rfl
  | set urls => exact refill_unchanged failed
  | add urls => exact refill_unchanged failed
  | delete urls => rfl

end UrlRequest

theorem UrlList.place_inj {first second : TenantId} : place first = place second ↔ first = second :=
  ⟨congrArg ResourceKey.tenant, congrArg place⟩

namespace UrlRequest

variable {source : Source} {α : Type}

/-- Whatever is stored, a request that fails leaves the lists of all tenants as they were, unless it breaks off. -/
theorem fails_changed_iff_breaksOff (names : Function.Injective source.name) (events : List RegistryEvent)
    (domain : String) (request : UrlRequest α) :
    ((∃ e, (((UrlService.onTables source).answer domain request).run (RegistryEvent.after source events)).1 = .error e) ∧
      ∃ tenant,
        (((UrlService.onTables source).answer domain request).run
            (RegistryEvent.after source events)).2.database.contents (place tenant) ≠
          (RegistryEvent.after source events).database.contents (place tenant)) ↔
      ∃ tenant entries, (RegistryEvent.after source events).database.tenantOf? domain = some tenant ∧
        (RegistryEvent.after source events).database.contents (place tenant) = some entries ∧
        request.BreaksOff entries := by
  have orderly := RegistryEvent.after_orderly names events
  generalize RegistryEvent.after source events = p at orderly
  cases found : p.database.tenantOf? domain with
  | none =>
    rw [UrlService.answer_unresolved orderly.toHealthy found]
    simp
  | some tenant =>
    obtain ⟨q, ran, refiles, _⟩ := UrlService.answer_ends orderly names found request
    have changed : (∃ other, q.database.contents (place other) ≠ p.database.contents (place other)) ↔
        (request.outcome domain (p.database.contents (place tenant))).2 ≠ p.database.contents (place tenant) := by
      rw [refiles.contents_eq]
      constructor
      · rintro ⟨other, differs⟩
        by_cases here : other = tenant
        · rwa [here, Function.update_self] at differs
        · exact absurd (Function.update_of_ne (mt place_inj.1 here) ..) differs
      · intro differs
        refine ⟨tenant, ?_⟩
        rwa [Function.update_self]
    rw [ran, changed]
    cases stored : p.database.contents (place tenant) with
    | none =>
      refine iff_of_false ?_ ?_
      · rintro ⟨⟨e, failed⟩, differs⟩
        exact differs (outcome_none_unchanged failed)
      · rintro ⟨other, entries, same, there, _⟩
        rw [← Option.some.inj same, stored] at there
        cases there
    | some entries =>
      rw [outcome_breaksOff_iff (orderly.filed.keys_nodup stored)]
      constructor
      · exact fun broken => ⟨tenant, entries, rfl, stored, broken⟩
      · rintro ⟨other, others, same, there, broken⟩
        rw [← Option.some.inj same, stored] at there
        exact Option.some.inj there ▸ broken

/-- A list in which an address has a key of its own, and another key is that of an address not in the list. -/
def foreignEntries : List Attribute := [⟨key "a", "a"⟩, ⟨key "c", "x"⟩, ⟨"k", "b"⟩]

def foreignKeys : List RegistryEvent :=
  [.register (.tenant "a.com"), .configure (.addType typeDraft),
    .configure (.replace ⟨1⟩ typeName ⟨resourceName, foreignEntries⟩)]

theorem foreignKeys_breakOff :
    ((∃ e, (((UrlService.onTables .strokes).answer "a.com" (.add ["d", "c"])).run
          (RegistryEvent.after .strokes foreignKeys)).1 = .error e) ∧
        ∃ tenant,
          (((UrlService.onTables .strokes).answer "a.com" (.add ["d", "c"])).run
              (RegistryEvent.after .strokes foreignKeys)).2.database.contents (place tenant) ≠
            (RegistryEvent.after .strokes foreignKeys).database.contents (place tenant)) ∧
      ((∃ e, (((UrlService.onTables .strokes).answer "a.com" (.delete ["a", "b"])).run
          (RegistryEvent.after .strokes foreignKeys)).1 = .error e) ∧
        ∃ tenant,
          (((UrlService.onTables .strokes).answer "a.com" (.delete ["a", "b"])).run
              (RegistryEvent.after .strokes foreignKeys)).2.database.contents (place tenant) ≠
            (RegistryEvent.after .strokes foreignKeys).database.contents (place tenant)) := by
  have names := Source.strokes_names
  -- one evaluation for all, so that the keys are worked out once
  obtain ⟨registered, stored, adding, deleting⟩ :
      (RegistryEvent.after .strokes foreignKeys).database.tenantOf? "a.com" = some ⟨1⟩ ∧
      (RegistryEvent.after .strokes foreignKeys).database.contents (place ⟨1⟩) = some foreignEntries ∧
      (UrlRequest.add ["d", "c"]).BreaksOff foreignEntries ∧ (UrlRequest.delete ["a", "b"]).BreaksOff foreignEntries := by
    simp only [BreaksOff]
    decide +kernel
  exact ⟨(fails_changed_iff_breaksOff names foreignKeys "a.com" _).2 ⟨_, _, registered, stored, adding⟩,
    (fails_changed_iff_breaksOff names foreignKeys "a.com" _).2 ⟨_, _, registered, stored, deleting⟩⟩

end UrlRequest

end OriginRegistry
