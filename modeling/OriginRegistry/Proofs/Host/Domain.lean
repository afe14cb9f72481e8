import Mathlib.Data.List.InsertIdx
import Mathlib.Data.List.TakeDrop
import OriginRegistry.Host.Domain
import OriginRegistry.Proofs.Text.Basic
import OriginRegistry.Proofs.Unicode.Composition

set_option autoImplicit false

namespace OriginRegistry.Host

open Text (splitOn joinWith mem_joinWith mem_of_mem_splitOn joinWith_splitOn)

namespace Punycode

def digitChars : List Char := (List.range 36).map digitChar

theorem digitChar_mem {d : Nat} (small : d < 36) : digitChar d ∈ digitChars :=
  List.mem_map_of_mem (List.mem_range.2 small)

theorem mem_digits {bias k n : Nat} {c : Char} (hc : c ∈ digits bias k n) : c ∈ digitChars := by
  fun_induction digits bias k n with
  | case1 k n t last =>
    have bounds := threshold_bounds k bias
    rw [List.mem_singleton.1 hc]
    exact digitChar_mem (by omega)
  | case2 k n t more ih =>
    have bounds := threshold_bounds k bias
    rcases List.mem_cons.1 hc with rfl | hc
    · have small := Nat.mod_lt (n - t) (show 36 - t > 0 by omega)
      exact digitChar_mem (by omega)
    · exact ih hc

theorem mem_writeFrom {bias length code position : Nat} {first : Bool} {xs : List Insertion} {c : Char}
    (hc : c ∈ writeFrom bias length code position first xs) : c ∈ digitChars := by
  induction xs generalizing bias length code position first with
  | nil => cases hc
  | cons x xs ih =>
    rw [writeFrom] at hc
    exact (List.mem_append.1 hc).elim mem_digits ih

theorem mem_encode {cs : List Char} {c : Char} (hc : c ∈ encode cs) :
    c ∈ cs ∧ c.toNat < 128 ∨ c = '-' ∨ c ∈ digitChars := by
  rw [encode, List.mem_append, List.mem_append] at hc
  rcases hc with (ascii | hyphen) | instructions
  · rw [basic, List.mem_filter, decide_eq_true_eq] at ascii
    exact .inl ascii
  · split at hyphen
    · cases hyphen
    · exact .inr (.inl (List.mem_singleton.1 hyphen))
  · exact .inr (.inr (mem_writeFrom instructions))

theorem mem_readFrom {bias code position : Nat} {first : Bool} {out cs text : List Char} (beyond : 128 ≤ code)
    (read : readFrom bias code position first out cs = some text) {c : Char} (hc : c ∈ text) :
    c ∈ out ∨ 128 ≤ c.toNat := by
  fun_induction readFrom bias code position first out cs with
  | case1 => exact .inl (Option.some.inj read ▸ hc)
  | case2 => cases read
  | case3 bias code position first out d rest n rest' number count code' valid ih =>
    have grown : 128 ≤ code' := Nat.le_trans beyond (Nat.le_add_right _ _)
    refine (ih grown read).elim (fun inserted => ?_) .inr
    rcases List.eq_or_mem_of_mem_insertIdx inserted with rfl | before
    · right
      rwa [Char.ofNat, dif_pos valid]
    · exact .inl before
  | case4 => cases read

theorem mem_splitBasic {cs : List Char} {c : Char} (hc : c ∈ (splitBasic cs).1) : c ∈ cs := by
  unfold splitBasic at hc
  rw [List.span_eq_takeWhile_dropWhile] at hc
  split at hc
  next tail d head same =>
    split at hc
    · cases hc
    · have whole := List.takeWhile_append_dropWhile (p := (· != '-')) (l := cs.reverse)
      rw [(Prod.mk.inj same).2] at whole
      have member : c ∈ cs.reverse := by
        rw [← whole]
        exact List.mem_append_right _ (List.mem_cons_of_mem d (List.mem_reverse.1 hc))
      exact List.mem_reverse.1 member
  next => cases hc

theorem mem_of_mem_decode {code text : List Char} (read : decode code = some text) {c : Char} (hc : c ∈ text)
    (ascii : c.toNat < 128) : c ∈ code := by
  rcases mem_readFrom (Nat.le_refl 128) read hc with before | beyond
  · exact mem_splitBasic before
  · exact absurd ascii (Nat.not_lt_of_le beyond)

end Punycode

namespace Domain

open Unicode (Direction)

theorem mapChar_ascii {c : Char} (ascii : c.toNat < 128) : mapChar c = some [c.toLower] := by
  have kept : (c.isUpper || c.toLower == c) = true :=
    Text.forall_ascii (p := fun c => c.isUpper || c.toLower == c) (by decide) ascii
  rw [mapChar, Unicode.HostMapping.apply, if_pos ascii]
  cases upper : c.isUpper with
  | true => rfl
  | false =>
    rw [upper, Bool.false_or, beq_iff_eq] at kept
    rw [kept]
    rfl

theorem mapAll_ascii {cs : List Char} (ascii : ∀ c ∈ cs, c.toNat < 128) : mapAll cs = some (cs.map Char.toLower) := by
  induction cs with
  | nil => rfl
  | cons c cs ih =>
    obtain ⟨here, later⟩ := List.forall_mem_cons.1 ascii
    rw [mapAll, mapChar_ascii here, ih later]
    rfl

theorem compose_ascii {cs : List Char} (ascii : ∀ c ∈ cs, c.toNat < 128) : Unicode.Composition.compose cs = cs := by
  refine if_pos (List.all_eq_true.2 fun c hc => ?_)
  exact decide_eq_true (Nat.lt_trans (ascii c hc) (by decide))

theorem mapped_ascii {cs : List Char} (ascii : ∀ c ∈ cs, c.toNat < 128) : mapped cs = some (cs.map Char.toLower) := by
  have small : ∀ c ∈ cs.map Char.toLower, c.toNat < 128 := by
    intro c hc
    obtain ⟨d, hd, rfl⟩ := List.mem_map.1 hc
    exact of_decide_eq_true (Text.forall_ascii (p := fun d => d.toLower.toNat < 128) (by decide) (ascii d hd))
  rw [mapped, mapAll_ascii ascii, Option.map_some, compose_ascii small]

theorem isAscii_iff {cs : List Char} : isAscii cs = true ↔ ∀ c ∈ cs, c.toNat < 128 := by
  simp [isAscii]

theorem mem_of_mem_unicodeLabel {label u : List Char} (read : unicodeLabel label = some u) {c : Char} (hc : c ∈ u)
    (ascii : c.toNat < 128) : c ∈ label := by
  unfold unicodeLabel at read
  split at read
  · simp only at read
    split at read
    · split at read
      next text decoded =>
        rw [Option.ite_none_right_eq_some] at read
        obtain rfl := Option.some.inj read.2
        exact List.mem_of_mem_drop (Punycode.mem_of_mem_decode decoded hc ascii)
      next => cases read
    · cases read
  · split at read
    · exact Option.some.inj read ▸ hc
    · rw [Option.ite_none_right_eq_some] at read
      exact Option.some.inj read.2 ▸ hc

theorem exists_of_mem_unicodeLabels {labels us : List (List Char)} (read : unicodeLabels labels = some us)
    {u : List Char} (hu : u ∈ us) : ∃ label ∈ labels, unicodeLabel label = some u := by
  induction labels generalizing us with
  | nil =>
    obtain rfl := Option.some.inj read
    cases hu
  | cons label labels ih =>
    rw [unicodeLabels] at read
    split at read
    next first others here rest =>
      obtain rfl := Option.some.inj read
      rcases List.mem_cons.1 hu with rfl | hu
      · exact ⟨label, List.mem_cons_self, here⟩
      · obtain ⟨found, hf, same⟩ := ih rest hu
        exact ⟨found, List.mem_cons_of_mem label hf, same⟩
    next => cases read

def added : List Char := ['.', '-'] ++ Punycode.digitChars

theorem mem_asciiLabel {u : List Char} {c : Char} (hc : c ∈ asciiLabel u) : c ∈ u ∧ c.toNat < 128 ∨ c ∈ added := by
  have mark : ∀ d ∈ encodedMark, d ∈ added := List.all_iff_forall_prop.1 (by decide)
  unfold asciiLabel at hc
  split at hc
  next ascii => exact .inl ⟨hc, isAscii_iff.1 ascii c hc⟩
  next =>
    rcases List.mem_append.1 hc with marked | encoded
    · exact .inr (mark c marked)
    · refine (Punycode.mem_encode encoded).imp_right ?_
      rintro (rfl | digit)
      · decide
      · exact List.mem_append_right _ digit

theorem toAscii_eq_some {cs name : List Char} (read : toAscii cs = some name) :
    ∃ m us, mapped cs = some m ∧ (∀ c ∈ m, isForbidden c = false) ∧ unicodeLabels (splitOn '.' m) = some us ∧
      name = joinWith '.' (us.map asciiLabel) := by
  unfold toAscii at read
  split at read
  next => cases read
  next m mapping =>
    rw [Option.ite_none_left_eq_some] at read
    obtain ⟨allowed, read⟩ := read
    split at read
    next => cases read
    next us labels =>
      rw [Option.ite_none_left_eq_some] at read
      refine ⟨m, us, mapping, fun c hc => ?_, labels, (Option.some.inj read.2).symm⟩
      simpa using fun forbidden => allowed (List.any_eq_true.2 ⟨c, hc, forbidden⟩)

theorem mem_toAscii {cs name : List Char} (read : toAscii cs = some name) {c : Char} (hc : c ∈ name) :
    c ∈ added ∨ c.toNat < 128 ∧ isForbidden c = false ∧ ∃ m, mapped cs = some m ∧ c ∈ m := by
  obtain ⟨m, us, mapping, allowed, labels, rfl⟩ := toAscii_eq_some read
  rcases mem_joinWith hc with rfl | ⟨part, hp, inside⟩
  · exact .inl (by decide)
  · obtain ⟨u, hu, rfl⟩ := List.mem_map.1 hp
    refine (mem_asciiLabel inside).symm.imp_right ?_
    rintro ⟨here, ascii⟩
    obtain ⟨label, hl, unicode⟩ := exists_of_mem_unicodeLabels labels hu
    have member : c ∈ m := mem_of_mem_splitOn hl (mem_of_mem_unicodeLabel unicode here ascii)
    exact ⟨ascii, allowed c member, m, mapping, member⟩

theorem toAscii_ascii {cs name : List Char} (read : toAscii cs = some name) : ∀ c ∈ name, c.toNat < 128 := by
  have ascii : ∀ c ∈ added, c.toNat < 128 := List.all_iff_forall_prop.1 (by decide)
  exact fun c hc => (mem_toAscii read hc).elim (ascii c) And.left

theorem toAscii_allowed {cs name : List Char} (read : toAscii cs = some name) : ∀ c ∈ name, isForbidden c = false := by
  have allowed : ∀ c ∈ added, isForbidden c = false := List.all_iff_forall_prop.1 (by decide)
  exact fun c hc => (mem_toAscii read hc).elim (allowed c) fun kept => kept.2.1

theorem mem_mapAll {cs m : List Char} {c : Char} (ascii : c.toNat < 128) (small : c.toLower = c)
    (mapping : mapAll cs = some m) (member : c ∈ cs) : c ∈ m := by
  induction cs generalizing m with
  | nil => cases member
  | cons d cs ih =>
    rw [mapAll] at mapping
    split at mapping
    next a b here later =>
      obtain rfl : a ++ b = m := Option.some.inj mapping
      rcases List.mem_cons.1 member with rfl | member
      · obtain rfl : [c.toLower] = a := Option.some.inj ((mapChar_ascii ascii).symm.trans here)
        rw [small]
        exact List.mem_append_left _ (List.mem_singleton_self c)
      · exact List.mem_append_right _ (ih later member)
    next => cases mapping

theorem ascii_of_forbidden {c : Char} (forbidden : isForbidden c = true) : c.toNat < 128 := by
  have signs : ∀ c ∈ ['#', '%', '/', ':', '<', '>', '?', '@', '[', '\\', ']', '^', '|'], c.toNat < 128 :=
    List.all_iff_forall_prop.1 (by decide)
  simp only [isForbidden, Bool.or_eq_true, decide_eq_true_eq, beq_iff_eq, List.contains_iff_mem] at forbidden
  rcases forbidden with (low | rubout) | sign
  · omega
  · omega
  · exact signs c sign

/-- Of the characters that no host holds only those may occur in a name to which marks are joined. -/
theorem joined_of_toAscii {cs name : List Char} (read : toAscii cs = some name) {c : Char} (member : c ∈ cs)
    (forbidden : isForbidden c = true) : c = '<' ∨ c = '>' := by
  have ascii : c.toNat < 128 := ascii_of_forbidden forbidden
  have small : c.toLower = c ∧ (Unicode.Composition.isBase c = true → c = '<' ∨ c = '>') := by
    have all := Text.forall_ascii (p := fun c => !isForbidden c ||
      (c.toLower == c && (!Unicode.Composition.isBase c || c == '<' || c == '>'))) (by decide) ascii
    simpa [forbidden, or_assoc, imp_iff_not_or] using all
  obtain ⟨m, _, mapping, allowed, _⟩ := toAscii_eq_some read
  obtain ⟨all, same, rfl⟩ := Option.map_eq_some_iff.1 mapping
  by_contra other
  have plain : Unicode.Composition.isBase c = false := Bool.eq_false_iff.2 fun base => other (small.2 base)
  have kept := Unicode.Composition.mem_compose plain (mem_mapAll ascii small.1 same member)
  rw [allowed c kept] at forbidden
  cases forbidden

/-- A name that is its own ASCII form has no capitals: they would have been mapped. -/
theorem lower_of_toAscii_self {name : List Char} (settled : toAscii name = some name) :
    ∀ c ∈ name, c.isUpper = false := by
  have small : ∀ c ∈ added, c.isUpper = false := List.all_iff_forall_prop.1 (by decide)
  intro c hc
  rcases mem_toAscii settled hc with new | ⟨_, _, m, mapping, member⟩
  · exact small c new
  · rw [mapped_ascii (toAscii_ascii settled)] at mapping
    obtain rfl := Option.some.inj mapping
    obtain ⟨d, hd, rfl⟩ := List.mem_map.1 member
    have lower := Text.forall_ascii (p := fun d => !d.toLower.isUpper) (by decide) (toAscii_ascii settled d hd)
    rwa [Bool.not_eq_true'] at lower

theorem unicodeLabels_plain {labels : List (List Char)} (ascii : ∀ label ∈ labels, isAscii label = true)
    (unmarked : ∀ label ∈ labels, encodedMark.isPrefixOf label = false) : unicodeLabels labels = some labels := by
  induction labels with
  | nil => rfl
  | cons label labels ih =>
    obtain ⟨here, later⟩ := List.forall_mem_cons.1 ascii
    obtain ⟨plain, others⟩ := List.forall_mem_cons.1 unmarked
    have own : unicodeLabel label = some label := by simp [unicodeLabel, here, plain]
    rw [unicodeLabels, own, ih later others]

theorem ofChar_ascii {c : Char} (ascii : c.toNat < 128) : (Direction.ofChar c).isRightToLeft = false := by
  simp only [Direction.ofChar, ascii, ↓reduceIte]
  split
  · rfl
  · split <;> rfl

/-- A name in small letters of ASCII, of which no label claims to be encoded, is its own ASCII form. -/
theorem toAscii_plain {name : List Char} (ascii : ∀ c ∈ name, c.toNat < 128) (small : ∀ c ∈ name, c.toLower = c)
    (allowed : ∀ c ∈ name, isForbidden c = false)
    (unmarked : ∀ label ∈ splitOn '.' name, encodedMark.isPrefixOf label = false) : toAscii name = some name := by
  have mapping : mapped name = some name := by
    rw [mapped_ascii ascii, List.map_congr_left small, List.map_id']
  have labels : ∀ label ∈ splitOn '.' name, isAscii label = true := fun label hl =>
    isAscii_iff.2 fun c hc => ascii c (mem_of_mem_splitOn hl hc)
  have oneWay : isBidirectional (splitOn '.' name) = false := by
    rw [isBidirectional, List.any_eq_false]
    intro label hl found
    obtain ⟨c, hc, turned⟩ := List.any_eq_true.1 found
    rw [ofChar_ascii (ascii c (mem_of_mem_splitOn hl hc))] at turned
    cases turned
  have own : (splitOn '.' name).map asciiLabel = splitOn '.' name :=
    (List.map_congr_left fun label hl => if_pos (labels label hl)).trans (List.map_id' _)
  have clear : name.any isForbidden = false := by
    simpa using allowed
  simp only [toAscii, mapping, clear, unicodeLabels_plain labels unmarked, oneWay, own, joinWith_splitOn,
    Bool.false_and, Bool.false_eq_true, ↓reduceIte]

end Domain

end OriginRegistry.Host
