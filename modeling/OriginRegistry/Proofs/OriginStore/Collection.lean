import Mathlib.Data.List.Chain
import OriginRegistry.Proofs.OriginStore.Listing

set_option autoImplicit false

namespace OriginRegistry.RegisteredOrigin

def ofRow (row : JoinedRow) : RegisteredOrigin :=
  ⟨row.id, row.externalId, row.origin, row.tenantLevel, row.application.toList⟩

/-- One more row: it belongs to the last origin if it has its key, and is the first of an origin otherwise. -/
def gather (gathered : List RegisteredOrigin) (row : JoinedRow) : List RegisteredOrigin :=
  match gathered.getLast? with
  | none => [ofRow row]
  | some last =>
    if last.id = row.id then
      gathered.dropLast ++ [{ last with applications := last.applications ++ row.application.toList }]
    else gathered ++ [ofRow row]

theorem gather_same (front : List RegisteredOrigin) {last : RegisteredOrigin} {row : JoinedRow}
    (same : last.id = row.id) : gather (front ++ [last]) row =
      front ++ [{ last with applications := last.applications ++ row.application.toList }] := by
  simp only [gather, List.getLast?_concat, List.dropLast_concat, same, ↓reduceIte]

theorem gather_other (front : List RegisteredOrigin) {last : RegisteredOrigin} {row : JoinedRow}
    (other : last.id ≠ row.id) : gather (front ++ [last]) row = (front ++ [last]) ++ [ofRow row] := by
  simp only [gather, List.getLast?_concat, other, ↓reduceIte]

/-- What stands in front of the last origin is not looked at any more. -/
theorem foldl_gather_append (rows : List JoinedRow) (front : List RegisteredOrigin) (last : RegisteredOrigin) :
    rows.foldl gather (front ++ [last]) = front ++ rows.foldl gather [last] := by
  induction rows generalizing front last with
  | nil => rfl
  | cons row rows ih =>
    rw [List.foldl_cons, List.foldl_cons]
    by_cases same : last.id = row.id
    · rw [gather_same front same, ih, ← List.nil_append [last], gather_same [] same, List.nil_append]
    · have apart : gather [last] row = [last] ++ [ofRow row] := gather_other [] same
      rw [gather_other front same, ih (front ++ [last]), apart, ih [last], List.append_assoc]

def absorb (o : RegisteredOrigin) : List RegisteredOrigin → List RegisteredOrigin
  | [] => [o]
  | next :: others =>
    if next.id = o.id then { o with applications := o.applications ++ next.applications } :: others
    else o :: next :: others

theorem collect_cons (row : JoinedRow) (rows : List JoinedRow) :
    collect (row :: rows) = absorb (ofRow row) (collect rows) := by
  rw [collect]
  cases collect rows <;> rfl

theorem exists_absorb (o : RegisteredOrigin) (others : List RegisteredOrigin) :
    ∃ first rest, absorb o others = first :: rest ∧ first.id = o.id := by
  cases others with
  | nil => exact ⟨o, [], rfl, rfl⟩
  | cons next others =>
    by_cases same : next.id = o.id
    · exact ⟨_, others, if_pos same, rfl⟩
    · exact ⟨o, next :: others, if_neg same, rfl⟩

theorem absorb_more (o : RegisteredOrigin) (row : JoinedRow) (same : o.id = row.id) (others : List RegisteredOrigin) :
    absorb { o with applications := o.applications ++ row.application.toList } others =
      absorb o (absorb (ofRow row) others) := by
  cases others with
  | nil => simp [absorb, ofRow, same]
  | cons next others =>
    by_cases again : next.id = row.id
    · simp [absorb, ofRow, same, again]
    · simp [absorb, ofRow, same, again]

theorem foldl_gather (rows : List JoinedRow) (o : RegisteredOrigin) :
    rows.foldl gather [o] = absorb o (collect rows) := by
  induction rows generalizing o with
  | nil => rfl
  | cons row rows ih =>
    rw [List.foldl_cons, collect_cons]
    by_cases same : o.id = row.id
    · have more : gather [o] row = [_] := gather_same [] same
      rw [more, ih, absorb_more o row same]
    · have apart : gather [o] row = [o] ++ [ofRow row] := gather_other [] same
      obtain ⟨first, rest, absorbed, key⟩ := exists_absorb (ofRow row) (collect rows)
      have other : first.id ≠ o.id := fun again => same (again.symm.trans key)
      rw [apart, foldl_gather_append, ih, absorbed, absorb, if_neg other]
      rfl

theorem collect_eq_foldl (rows : List JoinedRow) : collect rows = rows.foldl gather [] := by
  cases rows with
  | nil => rfl
  | cons row rows => rw [collect_cons, List.foldl_cons, ← foldl_gather]; rfl

def NeighboursApart (origins : List RegisteredOrigin) : Prop := origins.IsChain fun a b => a.id ≠ b.id

theorem gather_apart {gathered : List RegisteredOrigin} (apart : NeighboursApart gathered) (row : JoinedRow) :
    NeighboursApart (gather gathered row) := by
  rcases List.eq_nil_or_concat' gathered with rfl | ⟨front, last, rfl⟩
  · exact List.isChain_singleton _
  · obtain ⟨before, _, between⟩ := List.isChain_append.1 apart
    by_cases same : last.id = row.id
    · rw [gather_same front same]
      refine List.isChain_append.2 ⟨before, List.isChain_singleton _, fun x hx y hy => ?_⟩
      cases hy
      exact between x hx last rfl
    · rw [gather_other front same]
      refine List.isChain_append.2 ⟨apart, List.isChain_singleton _, fun x hx y hy => ?_⟩
      rw [List.getLast?_concat] at hx
      cases hx
      cases hy
      exact same

theorem collect_apart (rows : List JoinedRow) : NeighboursApart (collect rows) := by
  rw [collect_eq_foldl]
  exact List.foldlRecOn (motive := NeighboursApart) rows gather List.isChain_nil
    fun _ apart row _ => gather_apart apart row

/-- Origins written as rows are collected again exactly when no neighbours among them have the same key. -/
theorem collect_flatMap_rows (origins : List RegisteredOrigin) :
    collect (origins.flatMap rows) = origins ↔ NeighboursApart origins := by
  constructor
  · intro same
    rw [← same]
    exact collect_apart _
  · intro apart
    induction origins with
    | nil => rfl
    | cons o origins ih =>
      obtain ⟨next, later⟩ := List.isChain_cons.1 apart
      have collected := ih later
      rw [List.flatMap_cons, collect_rows_append, collected]
      intro first hf
      rw [collected] at hf
      exact (next first hf).symm

end OriginRegistry.RegisteredOrigin
