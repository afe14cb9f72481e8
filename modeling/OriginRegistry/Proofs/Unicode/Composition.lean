import OriginRegistry.Unicode.Composition

set_option autoImplicit false

namespace OriginRegistry.Unicode

theorem mem_of_floor? {α : Type} {key : α → Nat} {entries : Array α} {n : Nat} {x : α}
    (found : floor? key entries n = some x) : x ∈ entries := by
  unfold floor? at found
  split at found
  next => cases found
  next => exact Array.mem_of_getElem? found

namespace Composition

/-- Characters that a mark may be joined to, with all beyond ASCII among them. -/
def isBase (c : Char) : Bool := 128 ≤ c.toNat || c.isAlpha || ['<', '=', '>'].contains c

set_option maxRecDepth 100000 in
theorem pairList_bases : ∀ p ∈ pairList, 768 ≤ p.second ∧ isBase (Char.ofNat p.first) = true := by
  -- The text of the table is read as a list of characters, over which the kernel can run the reader.
  obtain ⟨cs, text, bases⟩ : ∃ cs, pairsText = String.ofList cs ∧
      ((wordsFrom [] cs).filterMap Pair.ofText?).all fun p => 768 ≤ p.second && isBase (Char.ofNat p.first) := by
    refine ⟨_, rfl, ?_⟩
    decide +kernel
  rw [pairList, words, text, String.toList_ofList]
  intro p hp
  have base := List.all_eq_true.1 bases p hp
  rwa [Bool.and_eq_true, decide_eq_true_eq] at base

variable {c d starter : Char} {marks skipped cs ds : List Char} {highest : Nat}

theorem lt_of_not_base (plain : isBase c = false) : c.toNat < 128 := by
  simp only [isBase, Bool.or_eq_false_iff, decide_eq_false_iff_not] at plain
  omega

theorem syllable?_eq_none {a b : Nat} (low : a < 4352 ∨ b < 4352) : syllable? a b = none := by
  have letters : ¬ (firstLead ≤ a ∧ a < firstLead + 19 ∧ firstVowel ≤ b ∧ b < firstVowel + 21) := by
    simp only [firstLead, firstVowel]
    omega
  have tail : ¬ (firstSyllable ≤ a ∧ a < firstSyllable + 11172 ∧ (a - firstSyllable) % 28 = 0 ∧ beforeTails < b ∧
      b < beforeTails + 28) := by
    simp only [firstSyllable, beforeTails]
    omega
  rw [syllable?, if_neg letters, if_neg tail]

theorem composite?_eq_none (apart : isBase c = false ∨ d.toNat < 768) : composite? c.toNat d.toNat = none := by
  rw [composite?, Option.bind_eq_none_iff]
  intro p found
  obtain ⟨mark, base⟩ := pairList_bases p (List.mem_toArray.1 (mem_of_floor? found))
  refine if_neg ?_
  rintro ⟨first, second⟩
  rw [first, Char.ofNat_toNat] at base
  rcases apart with plain | low
  · rw [base] at plain
    cases plain
  · omega

theorem join?_eq_none (apart : isBase c = false ∨ d.toNat < 768) : join? c d = none := by
  have low : c.toNat < 4352 ∨ d.toNat < 4352 :=
    apart.imp (fun plain => Nat.lt_trans (lt_of_not_base plain) (by decide)) fun low => Nat.lt_trans low (by decide)
  rw [join?, syllable?_eq_none low, composite?_eq_none apart]
  rfl

theorem mem_insertMark : c ∈ insertMark d ds ↔ c = d ∨ c ∈ ds := by
  induction ds with
  | nil => simp [insertMark]
  | cons x ds ih =>
    rw [insertMark]
    split
    next => simp
    next => simp [ih, or_left_comm]

theorem mem_orderMarks : c ∈ orderMarks marks cs ↔ c ∈ marks ∨ c ∈ cs := by
  induction cs generalizing marks with
  | nil => simp [orderMarks]
  | cons x cs ih =>
    rw [orderMarks]
    split
    next => simp [ih]
    next => simp [ih, mem_insertMark, or_assoc, or_left_comm]

section Plain

variable (plain : isBase c = false)

include plain

theorem mem_decompose (member : c ∈ cs) : c ∈ cs.flatMap decompose := by
  have own : decompose c = [c] := if_pos (Nat.lt_trans (lt_of_not_base plain) (by decide))
  exact List.mem_flatMap.2 ⟨c, member, own ▸ List.mem_singleton_self c⟩

theorem combiningClass_plain : combiningClass c = 0 := if_pos (Nat.lt_trans (lt_of_not_base plain) (by decide))

theorem starter_mem_joinFrom : c ∈ joinFrom c skipped highest cs := by
  induction cs generalizing skipped highest with
  | nil => simp [joinFrom]
  | cons d cs ih =>
    have alone : join? c d = none := join?_eq_none (.inl plain)
    simp only [joinFrom, alone, ite_self]
    split
    next => simp
    next => exact ih

theorem mem_joinFrom (member : c ∈ cs) : c ∈ joinFrom starter skipped highest cs := by
  induction cs generalizing starter skipped highest with
  | nil => cases member
  | cons d cs ih =>
    rcases List.mem_cons.1 member with rfl | later
    · have alone : join? starter c = none := join?_eq_none (.inr (Nat.lt_trans (lt_of_not_base plain) (by decide)))
      simp only [joinFrom, alone, ite_self, combiningClass_plain plain]
      exact List.mem_append_right _ (starter_mem_joinFrom plain)
    · rw [joinFrom]
      split
      next => exact ih later
      next =>
        split
        next => exact List.mem_append_right _ (ih later)
        next => exact ih later

theorem mem_joinAll (member : c ∈ cs) : c ∈ joinAll cs := by
  induction cs with
  | nil => cases member
  | cons d cs ih =>
    rw [joinAll]
    split
    next =>
      rcases List.mem_cons.1 member with rfl | later
      · exact starter_mem_joinFrom plain
      · exact mem_joinFrom plain later
    next starts =>
      rcases List.mem_cons.1 member with rfl | later
      · exact absurd (combiningClass_plain plain) starts
      · exact List.mem_cons_of_mem d (ih later)

theorem mem_compose (member : c ∈ cs) : c ∈ compose cs := by
  rw [compose]
  split
  next => exact member
  next => exact mem_joinAll plain (mem_orderMarks.2 (.inr (mem_decompose plain member)))

end Plain

end Composition

end OriginRegistry.Unicode
