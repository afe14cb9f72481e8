import Mathlib.Algebra.Ring.Nat
import Mathlib.Tactic.SplitIfs
import OriginRegistry.Moment
import OriginRegistry.Proofs.Json.Scalars

set_option autoImplicit false

namespace OriginRegistry

open Text (isDigit digitValue)

structure Moment.Proper (m : Moment) : Prop where
  day : Day.of? m.date.year m.date.month m.date.day = some m.date
  second : m.second < 86400
  nanosecond : m.nanosecond < 2000000000
  leap : 1000000000 ≤ m.nanosecond → m.second % 60 = 59

namespace Moment

def NoDigit (rest : List Char) : Prop := ∀ c ∈ rest.head?, isDigit c = false

theorem moreDigits_append {digits rest : List Char} {n width : Nat} (all : ∀ c ∈ digits, isDigit c = true)
    (fits : Nat.ofDigitChars 10 digits n ≤ largest) (enough : digits.length ≤ width)
    (ends : digits.length = width ∨ NoDigit rest) :
    moreDigits n width (digits ++ rest) = .ok (Nat.ofDigitChars 10 digits n, rest) := by
  induction digits generalizing n width with
  | nil =>
    cases width with
    | zero => rfl
    | succ width =>
      have other : NoDigit rest := by simpa using ends
      cases rest with
      | nil => rfl
      | cons c rest => simp [moreDigits, other c rfl, Nat.ofDigitChars]
  | cons c digits ih =>
    cases width with
    | zero => simp at enough
    | succ width =>
      have here : isDigit c = true := all c List.mem_cons_self
      have fitsAll : Nat.ofDigitChars 10 digits (10 * n + digitValue c) ≤ largest := fits
      have fitsStep : ¬ largest < 10 * n + digitValue c := by
        have low := Text.le_ofDigitChars digits (10 * n + digitValue c)
        omega
      simp only [List.length_cons, Nat.add_le_add_iff_right, Nat.add_right_cancel_iff] at enough ends
      have others := ih (fun d hd => all d (List.mem_cons_of_mem c hd)) fitsAll enough ends
      rw [List.cons_append, moreDigits, if_pos here]
      simp only [fitsStep, ↓reduceIte, others]
      rfl

theorem mem_padded {width n : Nat} {c : Char} (hc : c ∈ padded width n) : isDigit c = true := by
  rcases List.mem_append.1 hc with zeros | digits
  · rw [List.eq_of_mem_replicate zeros]
    rfl
  · exact Text.isDigit_of_mem_toDigits digits

theorem padded_value (width n : Nat) : Nat.ofDigitChars 10 (padded width n) 0 = n := by
  simp [padded, Nat.ofDigitChars_append, Nat.ofDigitChars_replicate_zero]

theorem length_padded {width n : Nat} (pos : 0 < width) (small : n < 10 ^ width) : (padded width n).length = width := by
  have short := (Nat.length_toDigits_le_iff (by omega) pos).2 small
  simp only [padded, List.length_append, List.length_replicate]
  omega

theorem padded_starts (width n : Nat) : ∃ c tail, padded width n = c :: tail ∧ isDigit c = true := by
  cases text : padded width n with
  | nil => exact absurd (List.append_eq_nil_iff.1 text).2 Nat.toDigits_ne_nil
  | cons c tail => exact ⟨c, tail, rfl, mem_padded (text ▸ List.mem_cons_self)⟩

theorem number_padded {width places n : Nat} {rest : List Char} (fits : n ≤ largest)
    (enough : (padded width n).length ≤ places) (ends : (padded width n).length = places ∨ NoDigit rest) :
    number places (padded width n ++ rest) = .ok (n, rest) := by
  have read := moreDigits_append (n := 0) (fun _ => mem_padded) (by rwa [padded_value]) enough ends
  rw [padded_value] at read
  obtain ⟨c, tail, text, digit⟩ := padded_starts width n
  rw [text, List.cons_append] at read ⊢
  rw [number, if_pos digit, read]

theorem dropWhile_padded (width n : Nat) (rest : List Char) :
    (padded width n ++ rest).dropWhile Text.isBlank = padded width n ++ rest := by
  obtain ⟨c, tail, text, digit⟩ := padded_starts width n
  rw [text, List.cons_append, List.dropWhile_cons_of_neg (by simp [Text.not_blank_of_isDigit digit])]

theorem part_padded {low high n : Nat} (least : low ≤ n) (most : n ≤ high) (small : n < 100) (rest : List Char) :
    part low high (padded 2 n ++ rest) = .ok (n, rest) := by
  have two : (padded 2 n).length = 2 := length_padded (by omega) small
  have fits : n ≤ largest := by
    unfold largest
    omega
  rw [part, dropWhile_padded, number_padded fits (Nat.le_of_eq two) (.inl two)]
  simp [least, most]

theorem mark_dash (rest : List Char) : mark '-' ('-' :: rest) = .ok rest := rfl

theorem mark_colon (rest : List Char) : mark ':' (':' :: rest) = .ok rest := rfl

theorem year_yearText {y : Int} (first : Day.firstYear ≤ y) (last : y ≤ Day.lastYear) (rest : List Char) :
    year (yearText y ++ '-' :: rest) = .ok (y, '-' :: rest) := by
  unfold Day.firstYear at first
  unfold Day.lastYear at last
  have dash : NoDigit ('-' :: rest) := by
    rintro _ ⟨⟩
    rfl
  have inside : -0x80000000 ≤ y ∧ y < 0x80000000 := by omega
  unfold year
  -- all that counts of the last step is what it makes of this year
  extract_lets fit
  have fits : fit y ('-' :: rest) = .ok (y, '-' :: rest) := if_pos inside
  clear_value fit
  unfold yearText
  by_cases four : 0 ≤ y ∧ y ≤ 9999
  · have small : y.toNat < 10 ^ 4 := by omega
    have bounded : y.toNat ≤ largest := by
      unfold largest
      omega
    have read := number_padded bounded (Nat.le_of_eq (length_padded (by omega) small)) (.inr dash)
    have same : (y.toNat : Int) = y := by omega
    obtain ⟨c, tail, text, digit⟩ := padded_starts 4 y.toNat
    rw [if_pos four, dropWhile_padded]
    split
    next signed =>
      rw [text, List.cons_append] at signed
      cases signed
      cases digit
    next signed =>
      rw [text, List.cons_append] at signed
      cases signed
      cases digit
    next =>
      rw [read, ok_bind]
      dsimp only
      rw [same, fits]
  · have bounded : y.natAbs ≤ largest := by
      unfold largest
      omega
    have enough : (padded 4 y.natAbs).length ≤ (padded 4 y.natAbs ++ '-' :: rest).length := by
      rw [List.length_append]
      exact Nat.le_add_right _ _
    have read := number_padded bounded enough (.inr dash)
    rw [if_neg four]
    by_cases negative : y < 0
    · have sign : Text.isBlank '-' = false := rfl
      have same : -(y.natAbs : Int) = y := by omega
      rw [if_pos negative, List.cons_append, List.dropWhile_cons_of_neg (by simp [sign])]
      change (number _ (padded 4 y.natAbs ++ '-' :: rest) >>= _) = _
      rw [read, ok_bind]
      dsimp only
      rw [same, fits]
    · have sign : Text.isBlank '+' = false := rfl
      have same : (y.natAbs : Int) = y := by omega
      rw [if_neg negative, List.cons_append, List.dropWhile_cons_of_neg (by simp [sign])]
      change (number _ (padded 4 y.natAbs ++ '-' :: rest) >>= _) = _
      rw [read, ok_bind]
      dsimp only
      rw [same, fits]

theorem noDigit_offset : NoDigit ['Z'] := by
  rintro _ ⟨⟩
  rfl

theorem fraction_padded {places n : Nat} (pos : 0 < places) (nine : places ≤ 9) (small : n < 10 ^ places) :
    fraction ('.' :: (padded places n ++ ['Z'])) = .ok (n * 10 ^ (9 - places), ['Z']) := by
  have length := length_padded pos small
  have below : 10 ^ places ≤ 10 ^ 9 := Nat.pow_le_pow_right (by omega) nine
  have bounded : n ≤ largest := by
    unfold largest
    omega
  have enough : (padded places n).length ≤ 9 := by omega
  have read := number_padded bounded enough (.inr noDigit_offset)
  have taken : (padded places n ++ ['Z']).length - ['Z'].length = places := by simp [length]
  have offset : isDigit 'Z' = false := rfl
  rw [fraction, read, ok_bind]
  dsimp only
  rw [taken, List.dropWhile_cons_of_neg (by simp [offset])]
  rfl

theorem fraction_fractionText {n : Nat} (small : n < 1000000000) :
    fraction (fractionText n ++ ['Z']) = .ok (n, ['Z']) := by
  unfold fractionText
  split_ifs with none millis micros
  · subst none
    rfl
  · rw [List.cons_append, fraction_padded (by omega) (by omega) (by omega)]
    have whole : n / 1000000 * 10 ^ (9 - 3) = n := by omega
    rw [whole]
  · rw [List.cons_append, fraction_padded (by omega) (by omega) (by omega)]
    have whole : n / 1000 * 10 ^ (9 - 6) = n := by omega
    rw [whole]
  · rw [List.cons_append, fraction_padded (by omega) (by omega) (by omega)]
    have whole : n * 10 ^ (9 - 9) = n := by omega
    rw [whole]

theorem ofLocal_universal {date : Day} {second : Nat} (small : second < 86400) (nanosecond : Nat) :
    ofLocal date second nanosecond 0 = .ok ⟨date, second, nanosecond⟩ := by
  have shifted : (second : Int) - 0 = second := by omega
  have early : ¬ (second : Int) < 0 := by omega
  have late : ¬ 86400 ≤ (second : Int) := by omega
  have same : ((second : Int) % 86400).toNat = second := by omega
  simp only [ofLocal, shifted, early, late, ↓reduceIte, same]

theorem day_of?_eq_some_iff {y : Int} {mo d : Nat} {day : Day} :
    Day.of? y mo d = some day ↔ Day.firstYear ≤ y ∧ y ≤ Day.lastYear ∧ 1 ≤ mo ∧ mo ≤ 12 ∧ 1 ≤ d ∧
      d ≤ Day.daysInMonth y mo ∧ day = ⟨y, mo, d⟩ := by
  unfold Day.of?
  constructor
  · intro found
    split at found
    next h =>
      cases found
      exact ⟨h.1, h.2.1, h.2.2.1, h.2.2.2.1, h.2.2.2.2.1, h.2.2.2.2.2, rfl⟩
    next => cases found
  · rintro ⟨first, last, lowMonth, highMonth, lowDay, inMonth, rfl⟩
    exact if_pos ⟨first, last, lowMonth, highMonth, lowDay, inMonth⟩

theorem daysInMonth_bounds (y : Int) (mo : Nat) : 28 ≤ Day.daysInMonth y mo ∧ Day.daysInMonth y mo ≤ 31 := by
  unfold Day.daysInMonth
  split_ifs <;> omega

theorem offset_universal : offset (['Z'].dropWhile Text.isBlank) = .ok (0, []) := rfl

/-- A leap second is shown as the sixtieth of its minute. -/
theorem Proper.clock {m : Moment} (proper : m.Proper) :
    (if m.second % 60 + m.nanosecond / 1000000000 = 60 then (59, m.nanosecond % 1000000000 + 1000000000)
      else (m.second % 60 + m.nanosecond / 1000000000, m.nanosecond % 1000000000)) =
      (m.second % 60, m.nanosecond) := by
  have inFraction := proper.nanosecond
  by_cases late : 1000000000 ≤ m.nanosecond
  · have last := proper.leap late
    rw [if_pos (by omega), Prod.mk.injEq]
    omega
  · rw [if_neg (by omega), Prod.mk.injEq]
    omega

theorem ofChars_chars {m : Moment} (proper : m.Proper) : ofChars m.chars = .ok m := by
  obtain ⟨first, last, lowMonth, highMonth, lowDay, inMonth, same⟩ := day_of?_eq_some_iff.1 proper.day
  have highDay : m.date.day ≤ 31 := Nat.le_trans inMonth (daysInMonth_bounds _ _).2
  have inDay := proper.second
  have inFraction := proper.nanosecond
  have leap := proper.leap
  have text : m.chars = yearText m.date.year ++ '-' :: (padded 2 m.date.month ++ '-' :: (padded 2 m.date.day ++
      'T' :: (padded 2 (m.second / 3600) ++ ':' :: (padded 2 (m.second / 60 % 60) ++
      ':' :: (padded 2 (m.second % 60 + m.nanosecond / 1000000000) ++
      (fractionText (m.nanosecond % 1000000000) ++ ['Z'])))))) := by
    simp [chars]
  rw [text, ofChars, year_yearText first last, ok_bind]
  dsimp only
  rw [mark_dash, ok_bind, part_padded lowMonth highMonth (by omega), ok_bind]
  dsimp only
  rw [mark_dash, ok_bind, part_padded lowDay highDay (by omega), ok_bind]
  dsimp only
  rw [if_pos (.inl rfl), pure_bind, part_padded (Nat.zero_le _) (by omega) (by omega), ok_bind]
  dsimp only
  rw [mark_colon, ok_bind, part_padded (Nat.zero_le _) (by omega) (by omega), ok_bind]
  dsimp only
  rw [mark_colon, ok_bind, part_padded (Nat.zero_le _) (by omega) (by omega), ok_bind]
  dsimp only
  rw [fraction_fractionText (Nat.mod_lt _ (by omega)), ok_bind]
  dsimp only
  rw [offset_universal, ok_bind]
  dsimp only
  rw [proper.clock, proper.day]
  have whole : 3600 * (m.second / 3600) + 60 * (m.second / 60 % 60) + m.second % 60 = m.second := by omega
  simp [whole, ofLocal_universal inDay]

theorem digitValue_le {c : Char} (digit : isDigit c = true) : digitValue c ≤ 9 := by
  have bounds := Text.isDigit_bounds digit
  change c.toNat - 48 ≤ 9
  omega

theorem moreDigits_bound {n width m : Nat} {cs rest : List Char} (read : moreDigits n width cs = .ok (m, rest)) :
    ∃ digits, cs = digits ++ rest ∧ digits.length ≤ width ∧ m < (n + 1) * 10 ^ digits.length := by
  induction width generalizing n cs with
  | zero =>
    cases read
    exact ⟨[], rfl, Nat.le_refl _, by simp⟩
  | succ width ih =>
    cases cs with
    | nil =>
      cases read
      exact ⟨[], rfl, Nat.zero_le _, by simp⟩
    | cons c cs =>
      rw [moreDigits] at read
      split at read
      next digit =>
        simp only at read
        split at read
        next => cases read
        next =>
          obtain ⟨digits, rfl, short, bound⟩ := ih read
          have small := digitValue_le digit
          refine ⟨c :: digits, rfl, Nat.succ_le_succ short, ?_⟩
          have step : 10 * n + digitValue c + 1 ≤ (n + 1) * 10 := by omega
          have scaled := Nat.mul_le_mul_right (10 ^ digits.length) step
          have power : (n + 1) * 10 ^ (digits.length + 1) = (n + 1) * 10 * 10 ^ digits.length := by
            rw [Nat.pow_succ, Nat.mul_assoc, Nat.mul_comm 10]
          rw [List.length_cons, power]
          exact Nat.lt_of_lt_of_le bound scaled
      next =>
        cases read
        exact ⟨[], rfl, Nat.zero_le _, by simp⟩

theorem number_bound {width n : Nat} {cs rest : List Char} (read : number width cs = .ok (n, rest)) :
    cs.length - rest.length ≤ width ∧ n < 10 ^ (cs.length - rest.length) := by
  have more : moreDigits 0 width cs = .ok (n, rest) := by
    unfold number at read
    split at read
    · cases read
    · split at read
      · exact read
      · cases read
  obtain ⟨digits, rfl, short, bound⟩ := moreDigits_bound more
  have taken : (digits ++ rest).length - rest.length = digits.length := by simp
  rw [taken]
  exact ⟨short, by simpa using bound⟩

theorem part_bound {low high n : Nat} {cs rest : List Char} (read : part low high cs = .ok (n, rest)) :
    low ≤ n ∧ n ≤ high := by
  obtain ⟨⟨k, after⟩, _, read⟩ := bind_eq_ok_iff.1 read
  dsimp only at read
  split at read
  next inside =>
    cases read
    exact inside
  next => cases read

theorem fraction_bound {n : Nat} {cs rest : List Char} (read : fraction cs = .ok (n, rest)) : n < 1000000000 := by
  unfold fraction at read
  split at read
  next cs =>
    obtain ⟨⟨k, after⟩, digits, read⟩ := bind_eq_ok_iff.1 read
    cases read
    obtain ⟨short, bound⟩ := number_bound digits
    have places : 0 < 10 ^ (9 - (cs.length - after.length)) := Nat.pow_pos (by omega)
    have scaled := Nat.mul_lt_mul_of_pos_right bound places
    have nine : 10 ^ (cs.length - after.length) * 10 ^ (9 - (cs.length - after.length)) = 1000000000 := by
      rw [← Nat.pow_add, Nat.add_sub_cancel' short]
    rw [nine] at scaled
    exact scaled
  next =>
    cases read
    omega

theorem signedOffset_minutes {n : Nat} {cs rest : List Char} (read : signedOffset cs = .ok (n, rest)) : 60 ∣ n := by
  unfold signedOffset at read
  dsimp only at read
  split at read
  case isTrue => cases read
  split at read
  case h_2 => cases read
  split at read
  case isFalse => cases read
  rw [pure_bind] at read
  split at read
  case isTrue => cases read
  split at read
  case h_2 => cases read
  split_ifs at read
  cases read
  omega

theorem offset_minutes {s : Int} {cs rest : List Char} (read : offset cs = .ok (s, rest)) : 60 ∣ s := by
  unfold offset at read
  split at read
  next =>
    cases read
    exact Int.dvd_zero _
  next =>
    split at read
    next => cases read
    next =>
      split_ifs at read
      · cases read
        exact Int.dvd_zero _
      · obtain ⟨⟨n, after⟩, signed, read⟩ := bind_eq_ok_iff.1 read
        cases read
        exact Int.natCast_dvd_natCast.2 (signedOffset_minutes signed)
      · obtain ⟨⟨n, after⟩, signed, read⟩ := bind_eq_ok_iff.1 read
        cases read
        exact Int.dvd_neg.2 (Int.natCast_dvd_natCast.2 (signedOffset_minutes signed))

def InCalendar (d : Day) : Prop := Day.of? d.year d.month d.day = some d

theorem next_inCalendar {d after : Day} (inside : InCalendar d) (next : d.next? = some after) : InCalendar after := by
  obtain ⟨first, last, lowMonth, highMonth, lowDay, inMonth, _⟩ := day_of?_eq_some_iff.1 inside
  have january := (daysInMonth_bounds (d.year + 1) 1).1
  have following := (daysInMonth_bounds d.year (d.month + 1)).1
  unfold Day.next? at next
  split_ifs at next <;> cases next <;> apply day_of?_eq_some_iff.2 <;> dsimp only <;> simp only [and_true] <;> omega

theorem previous_inCalendar {d before : Day} (inside : InCalendar d) (previous : d.previous? = some before) :
    InCalendar before := by
  obtain ⟨first, last, lowMonth, highMonth, lowDay, inMonth, _⟩ := day_of?_eq_some_iff.1 inside
  have december : Day.daysInMonth (d.year - 1) 12 = 31 := rfl
  have preceding := (daysInMonth_bounds d.year (d.month - 1)).1
  unfold Day.previous? at previous
  split_ifs at previous <;> cases previous <;> apply day_of?_eq_some_iff.2 <;> dsimp only <;> simp only [and_true] <;>
    omega

theorem ofLocal_proper {date : Day} {second nanosecond : Nat} {seconds : Int} {m : Moment}
    (shown : ofLocal date second nanosecond seconds = .ok m) (inside : InCalendar date)
    (small : nanosecond < 2000000000) (minutes : 60 ∣ seconds)
    (leap : 1000000000 ≤ nanosecond → second % 60 = 59) : m.Proper := by
  simp only [ofLocal] at shown
  split at shown
  next date' found =>
    cases shown
    have calendar : InCalendar date' := by
      split_ifs at found
      · exact previous_inCalendar inside found
      · exact next_inCalendar inside found
      · cases found
        exact inside
    exact ⟨calendar, by dsimp only; omega, small, fun late => by have := leap late; dsimp only; omega⟩
  next => cases shown

theorem ofChars_proper {cs : List Char} {m : Moment} (read : ofChars cs = .ok m) : m.Proper := by
  unfold ofChars at read
  -- only the seconds, their fraction and the offset bear on the clock; the calendar is asked for the day as a whole
  obtain ⟨⟨y, _⟩, _, read⟩ := bind_eq_ok_iff.1 read
  obtain ⟨_, _, read⟩ := bind_eq_ok_iff.1 read
  obtain ⟨⟨month, _⟩, _, read⟩ := bind_eq_ok_iff.1 read
  obtain ⟨_, _, read⟩ := bind_eq_ok_iff.1 read
  obtain ⟨⟨d, _⟩, _, read⟩ := bind_eq_ok_iff.1 read
  dsimp only at read
  split at read
  case h_1 => cases read
  split at read
  case isFalse => cases read
  rw [pure_bind] at read
  obtain ⟨⟨hour, _⟩, _, read⟩ := bind_eq_ok_iff.1 read
  obtain ⟨_, _, read⟩ := bind_eq_ok_iff.1 read
  obtain ⟨⟨minute, _⟩, _, read⟩ := bind_eq_ok_iff.1 read
  obtain ⟨_, _, read⟩ := bind_eq_ok_iff.1 read
  obtain ⟨⟨second, _⟩, seconds_read, read⟩ := bind_eq_ok_iff.1 read
  obtain ⟨⟨nano, _⟩, fraction_read, read⟩ := bind_eq_ok_iff.1 read
  obtain ⟨⟨shift, _⟩, shift_read, read⟩ := bind_eq_ok_iff.1 read
  have most := (part_bound seconds_read).2
  have small := fraction_bound fraction_read
  have minutes := offset_minutes shift_read
  dsimp only at read
  split at read
  case isTrue => cases read
  split at read
  case h_1 => cases read
  next date found =>
    obtain ⟨_, _, _, _, _, _, same⟩ := day_of?_eq_some_iff.1 found
    have inside : InCalendar date := by
      subst same
      exact found
    split at read
    case isTrue => cases read
    by_cases leap : second = 60
    · rw [if_pos leap] at read
      exact ofLocal_proper read inside (by omega) minutes (by omega)
    · rw [if_neg leap] at read
      exact ofLocal_proper read inside (by omega) minutes (by omega)

/-- A moment that was read from some text is read from its own. -/
theorem ofText_text {s : String} {m : Moment} (read : ofText s = .ok m) : ofText m.text = .ok m := by
  rw [ofText, text, String.toList_ofList, ofChars_chars (ofChars_proper read)]

end Moment

end OriginRegistry
