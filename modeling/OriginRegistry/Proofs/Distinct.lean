import OriginRegistry.Distinct

set_option autoImplicit false

namespace OriginRegistry

theorem find?_eq_some_iff_of_unique {α : Type} {p : α → Bool} {xs : List α} {x : α}
    (unique : ∀ a ∈ xs, ∀ b ∈ xs, p a = true → p b = true → a = b) :
    xs.find? p = some x ↔ x ∈ xs ∧ p x = true := by
  constructor
  · exact fun found => ⟨List.mem_of_find?_eq_some found, List.find?_some found⟩
  · rintro ⟨hx, here⟩
    cases found : xs.find? p with
    | none => exact absurd here (List.find?_eq_none.1 found x hx)
    | some y =>
      have there : p y = true := List.find?_some found
      rw [unique y (List.mem_of_find?_eq_some found) x hx there here]

variable {α : Type} [BEq α]

theorem distinctAfter_sublist (seen xs : List α) : (distinctAfter seen xs).Sublist xs := by
  induction xs generalizing seen with
  | nil => exact List.Sublist.refl []
  | cons y ys ih =>
    unfold distinctAfter
    split
    · exact (ih seen).cons y
    · exact (ih (y :: seen)).cons_cons y

theorem distinct_sublist (xs : List α) : (distinct xs).Sublist xs := distinctAfter_sublist [] xs

variable [LawfulBEq α]

theorem mem_distinctAfter {seen xs : List α} {x : α} : x ∈ distinctAfter seen xs ↔ x ∈ xs ∧ x ∉ seen := by
  induction xs generalizing seen with
  | nil => simp [distinctAfter]
  | cons y ys ih =>
    unfold distinctAfter
    split
    next old =>
      have old : y ∈ seen := List.contains_iff_mem.1 old
      rw [ih, List.mem_cons]
      constructor
      · exact fun ⟨hx, new⟩ => ⟨.inr hx, new⟩
      · rintro ⟨rfl | hx, new⟩
        · exact absurd old new
        · exact ⟨hx, new⟩
    next fresh =>
      have fresh : y ∉ seen := fun old => fresh (List.contains_iff_mem.2 old)
      rw [List.mem_cons, ih, List.mem_cons, List.mem_cons]
      by_cases same : x = y
      · simp [same, fresh]
      · simp [same]

theorem distinctAfter_nodup (seen xs : List α) : (distinctAfter seen xs).Nodup := by
  induction xs generalizing seen with
  | nil => exact List.nodup_nil
  | cons y ys ih =>
    unfold distinctAfter
    split
    · exact ih seen
    · refine List.nodup_cons.2 ⟨fun again => ?_, ih (y :: seen)⟩
      exact (mem_distinctAfter.1 again).2 List.mem_cons_self

/-- What was seen before may be left out of a search that does not look for it. -/
theorem find?_distinctAfter {p : α → Bool} {seen : List α} (skip : ∀ x ∈ seen, p x = false) (xs : List α) :
    (distinctAfter seen xs).find? p = xs.find? p := by
  induction xs generalizing seen with
  | nil => rfl
  | cons y ys ih =>
    unfold distinctAfter
    split
    next old => rw [ih skip, List.find?_cons_of_neg (by simp [skip y (List.contains_iff_mem.1 old)])]
    next =>
      cases hit : p y with
      | true => rw [List.find?_cons_of_pos hit, List.find?_cons_of_pos hit]
      | false =>
        have miss : ¬ p y = true := by simp [hit]
        rw [List.find?_cons_of_neg miss, List.find?_cons_of_neg miss]
        refine ih fun x hx => ?_
        rcases List.mem_cons.1 hx with rfl | hx
        · exact hit
        · exact skip x hx

theorem distinctAfter_inOrder (seen xs : List α) :
    (distinctAfter seen xs).Pairwise fun x y => xs.idxOf x < xs.idxOf y := by
  induction xs generalizing seen with
  | nil => exact List.Pairwise.nil
  | cons z zs ih =>
    have behind {x : α} (other : x ≠ z) : (z :: zs).idxOf x = zs.idxOf x + 1 := by
      rw [List.idxOf_cons, beq_false_of_ne other.symm, cond_false]
    unfold distinctAfter
    split
    next old =>
      have old : z ∈ seen := List.contains_iff_mem.1 old
      have others : ∀ x ∈ distinctAfter seen zs, x ≠ z := by
        rintro x hx rfl
        exact (mem_distinctAfter.1 hx).2 old
      refine (ih seen).imp_of_mem fun hx hy before => ?_
      rw [behind (others _ hx), behind (others _ hy)]
      exact Nat.succ_lt_succ before
    next =>
      have others : ∀ x ∈ distinctAfter (z :: seen) zs, x ≠ z := by
        rintro x hx rfl
        exact (mem_distinctAfter.1 hx).2 List.mem_cons_self
      refine List.pairwise_cons.2 ⟨fun y hy => ?_, (ih (z :: seen)).imp_of_mem fun hx hy before => ?_⟩
      · rw [List.idxOf_cons_self, behind (others y hy)]
        exact Nat.succ_pos _
      · rw [behind (others _ hx), behind (others _ hy)]
        exact Nat.succ_lt_succ before

theorem distinct_inOrder (xs : List α) : (distinct xs).Pairwise fun x y => xs.idxOf x < xs.idxOf y :=
  distinctAfter_inOrder [] xs

theorem mem_distinct {xs : List α} {x : α} : x ∈ distinct xs ↔ x ∈ xs := by
  simp [distinct, mem_distinctAfter]

theorem distinct_nodup (xs : List α) : (distinct xs).Nodup := distinctAfter_nodup [] xs

theorem distinctAfter_eq (seen xs : List α) :
    distinctAfter seen xs = (xs.filter fun x => !seen.contains x).eraseDups := by
  induction xs generalizing seen with
  | nil => rfl
  | cons x xs ih =>
    unfold distinctAfter
    rw [List.filter_cons]
    cases old : seen.contains x with
    | true => simp [ih]
    | false =>
      simp only [Bool.false_eq_true, ↓reduceIte, Bool.not_false, List.eraseDups_cons, ih, List.filter_filter]
      refine congrArg (fun ys => x :: List.eraseDups ys) (List.filter_congr fun y _ => ?_)
      rw [List.contains_cons, Bool.not_or]

theorem distinct_eq_eraseDups (xs : List α) : distinct xs = xs.eraseDups := by
  have all : (xs.filter fun x => !([] : List α).contains x) = xs := List.filter_eq_self.2 fun _ _ => rfl
  rw [distinct, distinctAfter_eq, all]

theorem distinct_of_nodup {xs : List α} (once : xs.Nodup) : distinct xs = xs := by
  rw [distinct_eq_eraseDups]
  induction xs with
  | nil => rfl
  | cons x xs ih =>
    obtain ⟨new, once⟩ := List.nodup_cons.1 once
    have others : (xs.filter fun y => !y == x) = xs :=
      List.filter_eq_self.2 fun y hy => by simpa using fun same : y = x => new (same ▸ hy)
    rw [List.eraseDups_cons, others, ih once]

/-- What there was before makes no difference when it comes again. -/
theorem distinct_append_of_subset {xs ys : List α} (old : ys ⊆ xs) : distinct (xs ++ ys) = distinct xs := by
  have removed : ys.removeAll xs = [] := by
    rw [List.removeAll, List.filter_eq_nil_iff]
    intro y hy
    simpa using old hy
  rw [distinct_eq_eraseDups, distinct_eq_eraseDups, List.eraseDups_append, removed, List.eraseDups_nil, List.append_nil]

theorem find?_distinct (p : α → Bool) (xs : List α) : (distinct xs).find? p = xs.find? p :=
  find?_distinctAfter (fun _ hx => absurd hx List.not_mem_nil) xs

end OriginRegistry
