import OriginRegistry.Management.Service
import Mathlib.Data.List.Induction
import Mathlib.Data.List.Perm.Basic

set_option autoImplicit false

namespace OriginRegistry

section Places

variable {α : Type 1} {priority : α → Int32} {store top : α} {stores : List α}

theorem placeStore_perm : (placeStore priority store stores).Perm (store :: stores) := by
  induction stores with
  | nil => exact .refl _
  | cons s stores ih =>
    unfold placeStore
    split
    · exact .refl _
    · exact (ih.cons s).trans (.swap store s stores)

theorem placeStore_of_forall_le (others : ∀ s ∈ stores, priority s ≤ priority store) :
    placeStore priority store stores = stores ++ [store] := by
  induction stores with
  | nil => rfl
  | cons s stores ih =>
    rw [List.forall_mem_cons] at others
    rw [placeStore, if_neg (Int32.not_lt.2 others.1), ih others.2, List.cons_append]

theorem placeStore_of_forall_lt (others : ∀ s ∈ stores, priority store < priority s) :
    placeStore priority store stores = store :: stores := by
  cases stores with
  | nil => rfl
  | cons s stores => rw [placeStore, if_pos (others s List.mem_cons_self)]

theorem priority_trans (priority : α → Int32) (s t u : α) (first : decide (priority s ≤ priority t) = true)
    (second : decide (priority t ≤ priority u) = true) : decide (priority s ≤ priority u) = true :=
  decide_eq_true (Int32.le_trans (of_decide_eq_true first) (of_decide_eq_true second))

theorem priority_total (priority : α → Int32) (s t : α) :
    (decide (priority s ≤ priority t) || decide (priority t ≤ priority s)) = true := by
  simpa using Int32.le_total (priority s) (priority t)

/-- To place a store is to put it behind the others and to sort by priority, which keeps equals in their order. -/
theorem placeStore_eq_mergeSort (ascending : stores.Pairwise fun s t => priority s ≤ priority t) :
    placeStore priority store stores = (stores ++ [store]).mergeSort fun s t => priority s ≤ priority t := by
  induction stores with
  | nil => exact (List.mergeSort_singleton store).symm
  | cons s stores ih =>
    obtain ⟨least, ascending⟩ := List.pairwise_cons.1 ascending
    -- Sorting puts `s` between those of the others that it outranks and those that it does not.
    obtain ⟨before, after, sorted, rest, outranked⟩ :=
      List.mergeSort_cons (priority_trans priority) (priority_total priority) s (stores ++ [store])
    have ordered :=
      List.pairwise_mergeSort (priority_trans priority) (priority_total priority) (s :: (stores ++ [store]))
    rw [sorted, List.pairwise_append, List.pairwise_cons] at ordered
    have low : ∀ t ∈ before, ¬ priority s ≤ priority t := by simpa using outranked
    have high : ∀ t ∈ after, priority s ≤ priority t := fun t ht => of_decide_eq_true (ordered.2.1.1 t ht)
    rw [← ih ascending] at rest
    rw [List.cons_append, sorted, placeStore]
    split
    case isTrue below =>
      rw [placeStore_of_forall_lt fun t ht => Int32.lt_of_lt_of_le below (least t ht)] at rest
      cases before with
      | nil =>
        rw [List.nil_append] at rest
        have top := high store (rest ▸ List.mem_cons_self)
        exact absurd below (Int32.not_lt.2 top)
      | cons first before =>
        obtain ⟨rfl, rfl⟩ := List.cons.inj rest
        have none : before = [] := List.eq_nil_iff_forall_not_mem.2 fun t ht =>
          low t (List.mem_cons_of_mem _ ht) (least t (List.mem_append_left after ht))
        rw [none]
        rfl
    case isFalse above =>
      have none : before = [] := by
        refine List.eq_nil_iff_forall_not_mem.2 fun t ht => low t ht ?_
        have member : t ∈ store :: stores := placeStore_perm.mem_iff.1 (rest ▸ List.mem_append_left after ht)
        rcases List.mem_cons.1 member with rfl | member
        · exact Int32.not_lt.1 above
        · exact least t member
      rw [rest, none]
      rfl

theorem placeStore_ascending (ascending : stores.Pairwise fun s t => priority s ≤ priority t) :
    (placeStore priority store stores).Pairwise fun s t => priority s ≤ priority t := by
  rw [placeStore_eq_mergeSort ascending]
  exact (List.pairwise_mergeSort (priority_trans priority) (priority_total priority) _).imp of_decide_eq_true

theorem getLast?_placeStore_of_lt {s : α} (member : s ∈ stores) (outranked : priority store < priority s) :
    (placeStore priority store stores).getLast? = stores.getLast? := by
  induction stores with
  | nil => cases member
  | cons first stores ih =>
    unfold placeStore
    split
    case isTrue => rfl
    case isFalse high =>
      rcases List.mem_cons.1 member with rfl | member
      · exact absurd outranked high
      · have later := List.getLast?_eq_some_getLast (List.ne_nil_of_mem member)
        rw [List.getLast?_cons, List.getLast?_cons, ih member, later]

def placed (priority : α → Int32) (stores : List α) : List α :=
  stores.foldl (fun stores store => placeStore priority store stores) []

theorem placed_concat : placed priority (stores ++ [store]) = placeStore priority store (placed priority stores) :=
  List.foldl_concat _ _ _ _

theorem placed_perm (stores : List α) : (placed priority stores).Perm stores := by
  induction stores using List.reverseRecOn with
  | nil => exact .refl _
  | append_singleton stores store ih =>
    rw [placed_concat]
    exact (placeStore_perm.trans (ih.cons store)).trans (List.perm_append_singleton store stores).symm

theorem placed_ascending (stores : List α) : (placed priority stores).Pairwise fun s t => priority s ≤ priority t := by
  induction stores using List.reverseRecOn with
  | nil => exact .nil
  | append_singleton stores store ih =>
    rw [placed_concat]
    exact placeStore_ascending ih

/-- What stands last outranks all that was registered later, and nothing registered earlier outranks it. -/
theorem exists_of_getLast?_placed (last : (placed priority stores).getLast? = some top) :
    ∃ before after, stores = before ++ top :: after ∧
      (∀ s ∈ before, priority s ≤ priority top) ∧ ∀ s ∈ after, priority s < priority top := by
  induction stores using List.reverseRecOn with
  | nil => cases last
  | append_singleton stores store ih =>
    rw [placed_concat] at last
    by_cases others : ∀ s ∈ placed priority stores, priority s ≤ priority store
    · rw [placeStore_of_forall_le others, List.getLast?_concat] at last
      cases last
      exact ⟨stores, [], rfl, fun s hs => others s ((placed_perm stores).mem_iff.2 hs), nofun⟩
    · obtain ⟨s, hs, outranked⟩ : ∃ s ∈ placed priority stores, priority store < priority s := by
        simpa only [not_forall, exists_prop, Int32.not_le] using others
      rw [getLast?_placeStore_of_lt hs outranked] at last
      obtain ⟨before, after, rfl, lower, less⟩ := ih last
      have bounded : priority s ≤ priority top := by
        rcases List.mem_append.1 ((placed_perm _).mem_iff.1 hs) with earlier | later
        · exact lower s earlier
        · rcases List.mem_cons.1 later with rfl | later
          · exact Int32.le_refl _
          · exact Int32.le_of_lt (less s later)
      refine ⟨before, after ++ [store], by simp, lower, ?_⟩
      intro t ht
      rcases List.mem_append.1 ht with ht | ht
      · exact less t ht
      · rw [List.mem_singleton] at ht
        rw [ht]
        exact Int32.lt_of_lt_of_le outranked bounded

end Places

inductive StoreRegistration (σ : Type) : Type 1
  | origins (store : OriginStore σ)
  | policies (store : PolicyStore σ)

namespace StoreRegistration

variable {σ : Type}

def role : StoreRegistration σ → StoreRole
  | .origins _ => .origins
  | .policies _ => .policies

def priority : StoreRegistration σ → Int32
  | .origins store => store.priority
  | .policies store => store.priority

def originStore? : StoreRegistration σ → Option (OriginStore σ)
  | .origins store => some store
  | .policies _ => none

def policyStore? : StoreRegistration σ → Option (PolicyStore σ)
  | .origins _ => none
  | .policies store => some store

end StoreRegistration

namespace Management

variable {σ : Type}

def register (m : Management σ) : StoreRegistration σ → Management σ
  | .origins store => m.withOriginStore store
  | .policies store => m.withPolicyStore store

def registered (resolvers : Resolvers σ) (rs : List (StoreRegistration σ)) : Management σ :=
  rs.foldl register { resolvers }

theorem registered_resolvers (resolvers : Resolvers σ) (rs : List (StoreRegistration σ)) :
    (registered resolvers rs).resolvers = resolvers := by
  induction rs using List.reverseRecOn with
  | nil => rfl
  | append_singleton rs r ih =>
    rw [registered, List.foldl_concat]
    cases r <;> exact ih

theorem registered_originStores (resolvers : Resolvers σ) (rs : List (StoreRegistration σ)) :
    (registered resolvers rs).originStores =
      placed OriginStore.priority (rs.filterMap StoreRegistration.originStore?) := by
  rw [placed, List.foldl_filterMap]
  refine (List.foldl_hom originStores ?_).symm
  intro m r
  cases r <;> rfl

theorem registered_policyStores (resolvers : Resolvers σ) (rs : List (StoreRegistration σ)) :
    (registered resolvers rs).policyStores =
      placed PolicyStore.priority (rs.filterMap StoreRegistration.policyStore?) := by
  rw [placed, List.foldl_filterMap]
  refine (List.foldl_hom policyStores ?_).symm
  intro m r
  cases r <;> rfl

end Management

/-- Of the registrations for a role the one at this place has the highest priority, and none after it has the same. -/
def Selected {σ : Type} (rs : List (StoreRegistration σ)) (role : StoreRole) (place : Nat) : Prop :=
  ∃ r, rs[place]? = some r ∧ r.role = role ∧ ∀ other x, rs[other]? = some x → x.role = role →
    x.priority ≤ r.priority ∧ (place < other → x.priority < r.priority)

section

variable {σ : Type} {rs before after : List (StoreRegistration σ)} {r : StoreRegistration σ} {role : StoreRole}
  {place other : Nat}

theorem Selected.unique (h : Selected rs role place) (h' : Selected rs role other) : other = place := by
  obtain ⟨r, here, isRole, top⟩ := h
  obtain ⟨r', there, isRole', top'⟩ := h'
  rcases Nat.lt_trichotomy place other with later | same | later
  · exact absurd ((top other r' there isRole').2 later) (Int32.not_lt.2 (top' place r here isRole).1)
  · exact same.symm
  · exact absurd ((top' place r here isRole).2 later) (Int32.not_lt.2 (top other r' there isRole').1)

theorem Selected.exists_originStore (h : Selected rs .origins place) : ∃ store, rs[place]? = some (.origins store) := by
  obtain ⟨r, here, isRole, _⟩ := h
  cases r with
  | origins store => exact ⟨store, here⟩
  | policies store => cases isRole

theorem Selected.exists_policyStore (h : Selected rs .policies place) :
    ∃ store, rs[place]? = some (.policies store) := by
  obtain ⟨r, here, isRole, _⟩ := h
  cases r with
  | origins store => cases isRole
  | policies store => exact ⟨store, here⟩

theorem selected_of_append (lower : ∀ x ∈ before, x.role = r.role → x.priority ≤ r.priority)
    (less : ∀ x ∈ after, x.role = r.role → x.priority < r.priority) :
    Selected (before ++ r :: after) r.role before.length := by
  refine ⟨r, by simp, rfl, ?_⟩
  intro other x found isRole
  rcases Nat.lt_trichotomy other before.length with earlier | rfl | later
  · rw [List.getElem?_append_left earlier] at found
    refine ⟨lower x (List.mem_of_getElem? found) isRole, fun later => ?_⟩
    exact absurd later (Nat.not_lt.2 (Nat.le_of_lt earlier))
  · rw [List.getElem?_append_right (Nat.le_refl _), Nat.sub_self, List.getElem?_cons_zero] at found
    cases found
    exact ⟨Int32.le_refl _, fun later => absurd later (Nat.lt_irrefl _)⟩
  · obtain ⟨n, rfl⟩ := Nat.exists_eq_add_of_lt later
    rw [List.getElem?_append_right (by omega), show before.length + n + 1 - before.length = n + 1 by omega,
      List.getElem?_cons_succ] at found
    have small := less x (List.mem_of_getElem? found) isRole
    exact ⟨Int32.le_of_lt small, fun _ => small⟩

theorem selected_singleton : Selected [r] r.role 0 := by
  have alone : Selected ([] ++ r :: []) r.role 0 := selected_of_append nofun nofun
  exact alone

end

structure Finds {σ : Type} {α : Type 1} (role : StoreRole) (store? : StoreRegistration σ → Option α)
    (priority : α → Int32) : Prop where
  role_of : ∀ {r store}, store? r = some store → r.role = role
  priority_of : ∀ {r store}, store? r = some store → priority store = r.priority
  found : ∀ {r}, r.role = role → ∃ store, store? r = some store

section

variable {σ : Type} {α : Type 1} {rs : List (StoreRegistration σ)} {r : StoreRegistration σ} {role : StoreRole}
  {store? : StoreRegistration σ → Option α} {priority : α → Int32} {store : α} {place : Nat}

theorem finds_origins :
    Finds .origins (StoreRegistration.originStore? : StoreRegistration σ → _) OriginStore.priority where
  role_of {r store} found := by cases r <;> cases found; rfl
  priority_of {r store} found := by cases r <;> cases found; rfl
  found {r} isRole := by cases r <;> cases isRole; exact ⟨_, rfl⟩

theorem finds_policies :
    Finds .policies (StoreRegistration.policyStore? : StoreRegistration σ → _) PolicyStore.priority where
  role_of {r store} found := by cases r <;> cases found; rfl
  priority_of {r store} found := by cases r <;> cases found; rfl
  found {r} isRole := by cases r <;> cases isRole; exact ⟨_, rfl⟩

namespace Finds

theorem exists_selected_of_last (finds : Finds role store? priority)
    (last : (placed priority (rs.filterMap store?)).getLast? = some store) :
    ∃ place r, Selected rs role place ∧ rs[place]? = some r ∧ store? r = some store := by
  obtain ⟨before, after, split, lower, less⟩ := exists_of_getLast?_placed last
  obtain ⟨front, rest, rfl, rfl, back⟩ := List.filterMap_eq_append_iff.1 split
  obtain ⟨others, r, later, rfl, foreign, isStore, rfl⟩ := List.filterMap_eq_cons_iff.1 back
  refine ⟨(front ++ others).length, r, ?_, by simp, isStore⟩
  rw [← finds.role_of isStore, ← List.append_assoc]
  apply selected_of_append
  · intro x hx isRole
    obtain ⟨other, isOther⟩ := finds.found (isRole.trans (finds.role_of isStore))
    rcases List.mem_append.1 hx with hx | hx
    · rw [← finds.priority_of isOther, ← finds.priority_of isStore]
      exact lower other (List.mem_filterMap.2 ⟨x, hx, isOther⟩)
    · rw [foreign x hx] at isOther
      cases isOther
  · intro x hx isRole
    obtain ⟨other, isOther⟩ := finds.found (isRole.trans (finds.role_of isStore))
    rw [← finds.priority_of isOther, ← finds.priority_of isStore]
    exact less other (List.mem_filterMap.2 ⟨x, hx, isOther⟩)

theorem last_eq_none_iff (finds : Finds role store? priority) :
    (placed priority (rs.filterMap store?)).getLast? = none ↔ ∀ r ∈ rs, r.role ≠ role := by
  rw [List.getLast?_eq_none_iff, ← List.length_eq_zero_iff, (placed_perm _).length_eq, List.length_eq_zero_iff,
    List.filterMap_eq_nil_iff]
  constructor
  · intro foreign r hr isRole
    obtain ⟨store, isStore⟩ := finds.found isRole
    rw [foreign r hr] at isStore
    cases isStore
  · intro others r hr
    cases isStore : store? r with
    | none => rfl
    | some store => exact absurd (finds.role_of isStore) (others r hr)

theorem exists_selected (finds : Finds role store? priority) (hr : r ∈ rs) (isRole : r.role = role) :
    ∃ place, Selected rs role place := by
  cases last : (placed priority (rs.filterMap store?)).getLast? with
  | none => exact absurd isRole (finds.last_eq_none_iff.1 last r hr)
  | some store =>
    obtain ⟨place, _, selected, _⟩ := finds.exists_selected_of_last last
    exact ⟨place, selected⟩

theorem last_of_selected (finds : Finds role store? priority) (selected : Selected rs role place)
    (here : rs[place]? = some r) (isStore : store? r = some store) :
    (placed priority (rs.filterMap store?)).getLast? = some store := by
  cases last : (placed priority (rs.filterMap store?)).getLast? with
  | none => exact absurd (finds.role_of isStore) (finds.last_eq_none_iff.1 last r (List.mem_of_getElem? here))
  | some top =>
    obtain ⟨other, r', selected', there, isTop⟩ := finds.exists_selected_of_last last
    obtain rfl := selected.unique selected'
    rw [here] at there
    cases there
    exact isTop.symm.trans isStore

end Finds

theorem exists_selected (hr : r ∈ rs) : ∃ place, Selected rs r.role place := by
  cases role : r.role with
  | origins => exact finds_origins.exists_selected hr role
  | policies => exact finds_policies.exists_selected hr role

end

namespace Management

variable {σ : Type} {resolvers : Resolvers σ} {rs : List (StoreRegistration σ)} {place : Nat}

theorem originStore_of_selected {store : OriginStore σ} (selected : Selected rs .origins place)
    (here : rs[place]? = some (.origins store)) : (registered resolvers rs).originStore = .ok store := by
  rw [originStore, registered_originStores, finds_origins.last_of_selected selected here rfl]

theorem policyStore_of_selected {store : PolicyStore σ} (selected : Selected rs .policies place)
    (here : rs[place]? = some (.policies store)) : (registered resolvers rs).policyStore = .ok store := by
  rw [policyStore, registered_policyStores, finds_policies.last_of_selected selected here rfl]

theorem originStore_eq_error_iff {e : ManagementError} :
    (registered resolvers rs).originStore = .error e ↔ (∀ r ∈ rs, r.role ≠ .origins) ∧ e = .noStore .origins := by
  rw [originStore, registered_originStores, ← finds_origins.last_eq_none_iff]
  cases (placed OriginStore.priority _).getLast? <;> simp [eq_comm]

theorem policyStore_eq_error_iff {e : ManagementError} :
    (registered resolvers rs).policyStore = .error e ↔ (∀ r ∈ rs, r.role ≠ .policies) ∧ e = .noStore .policies := by
  rw [policyStore, registered_policyStores, ← finds_policies.last_eq_none_iff]
  cases (placed PolicyStore.priority _).getLast? <;> simp [eq_comm]

end Management

end OriginRegistry
