import OriginRegistry.Json.Printer
import OriginRegistry.Json.Reader
import OriginRegistry.Proofs.Action
import OriginRegistry.Proofs.Text.Basic

set_option autoImplicit false

namespace OriginRegistry.Json

open Text (isDigit digitValue)

def Stops (rest : List Char) : Prop := ∀ c ∈ rest.head?, c = ',' ∨ c = ']' ∨ c = '\x7d'

theorem Stops.nil : Stops [] := nofun

theorem Stops.nextIsDigit {rest : List Char} (stops : Stops rest) : nextIsDigit rest = false := by
  cases rest with
  | nil => rfl
  | cons c rest => rcases stops c rfl with rfl | rfl | rfl <;> rfl

theorem Stops.nextIsExponent {rest : List Char} (stops : Stops rest) : nextIsExponent rest = false := by
  cases rest with
  | nil => rfl
  | cons c rest => rcases stops c rfl with rfl | rfl | rfl <;> rfl

/-- As long as their value fits in 64 bits, digits are read up to what follows them. -/
theorem readDigits_append {digits rest : List Char} {n : Nat} (all : ∀ c ∈ digits, isDigit c = true)
    (fits : Nat.ofDigitChars 10 digits n ≤ largestWord) (stops : nextIsDigit rest = false) :
    readDigits n (digits ++ rest) = (Nat.ofDigitChars 10 digits n, digits.length, rest) := by
  induction digits generalizing n with
  | nil =>
    cases rest with
    | nil => rfl
    | cons c rest =>
      have other : isDigit c = false := stops
      simp [readDigits, other, Nat.ofDigitChars]
  | cons c digits ih =>
    have here : isDigit c = true := all c List.mem_cons_self
    have fitsAll : Nat.ofDigitChars 10 digits (10 * n + digitValue c) ≤ largestWord := fits
    have fitsStep : 10 * n + digitValue c ≤ largestWord := Nat.le_trans (Text.le_ofDigitChars digits _) fitsAll
    have others := ih (fun d hd => all d (List.mem_cons_of_mem c hd)) fitsAll
    rw [List.cons_append, readDigits, here, Bool.true_and, if_pos (decide_eq_true fitsStep), others]
    rfl

theorem readNumber_append {negative : Bool} {n : Nat} {rest : List Char} (fits : n ≤ largestWord) (stops : Stops rest) :
    readNumber negative (Nat.toDigits 10 n ++ rest) = wholeOf negative n rest := by
  have all : ∀ c ∈ Nat.toDigits 10 n, isDigit c = true := fun c hc => Text.isDigit_of_mem_toDigits hc
  have value : Nat.ofDigitChars 10 (Nat.toDigits 10 n) 0 = n := Nat.ofDigitChars_toDigits (by omega) (by omega)
  have read : readDigits 0 (Nat.toDigits 10 n ++ rest) = (n, (Nat.toDigits 10 n).length, rest) := by
    have step := readDigits_append (n := 0) all (by rwa [value]) stops.nextIsDigit
    rwa [value] at step
  cases digits : Nat.toDigits 10 n with
  | nil => exact absurd digits Nat.toDigits_ne_nil
  | cons c tail =>
    rw [digits] at read all
    have here : isDigit c = true := all c List.mem_cons_self
    have plain : ¬ (c = '0' ∧ nextIsDigit (tail ++ rest) = true) := by
      rintro ⟨rfl, more⟩
      rcases Nat.eq_zero_or_pos n with rfl | pos
      · have single : tail = [] := by
          have zero : Nat.toDigits 10 0 = ['0'] := rfl
          rw [zero] at digits
          exact (List.cons.inj digits).2.symm
        rw [single, List.nil_append, stops.nextIsDigit] at more
        cases more
      · have starts := Text.head_toDigits pos
        rw [digits] at starts
        exact starts rfl
    rw [List.cons_append] at read ⊢
    rw [readNumber]
    simp only [here, Bool.not_true, Bool.false_eq_true, ↓reduceIte, plain, read]
    cases rest with
    | nil => simp [nextIsExponent]
    | cons d rest =>
      have other : isDigit d = false := stops.nextIsDigit
      have exponent : nextIsExponent (d :: rest) = false := stops.nextIsExponent
      have point : d ≠ '.' := by
        rintro rfl
        rcases stops '.' rfl with h | h | h <;> cases h
      simp [other, exponent, point]

theorem hexDigit?_hexDigit : ∀ n < 16, Text.hexDigit? (hexDigit n) = some n := by decide

theorem hexFour_control {n : Nat} (control : n < 32) (rest : List Char) :
    hexFour ('0' :: '0' :: hexDigit (n / 16) :: hexDigit (n % 16) :: rest) = .ok n := by
  have high := hexDigit?_hexDigit (n / 16) (by omega)
  have low := hexDigit?_hexDigit (n % 16) (by omega)
  have zero : Text.hexDigit? '0' = some 0 := rfl
  simp only [hexFour, zero, high, low]
  congr 1
  omega

theorem readChars_named {c d : Char} (named : escaped? d = some c) (rest : List Char) :
    readChars ('\\' :: d :: rest) = startingWith c (readChars rest) := by
  have other : d ≠ 'u' := by
    rintro rfl
    cases named
  rw [readChars]
  · rw [named]
  · exact other

theorem readChars_control {c : Char} (control : c.toNat < 32) (rest : List Char) :
    readChars ('\\' :: 'u' :: '0' :: '0' :: hexDigit (c.toNat / 16) :: hexDigit (c.toNat % 16) :: rest) =
      startingWith c (readChars rest) := by
  have trailing : isTrailing c.toNat = false := by
    simp [isTrailing]
    omega
  have leading : isLeading c.toNat = false := by
    simp [isLeading]
    omega
  rw [readChars, hexFour_control control]
  simp [trailing, leading, Char.ofNat_toNat]

theorem readChars_plain {c : Char} (noQuote : c ≠ '"') (noBackslash : c ≠ '\\') (printed : ¬ c.toNat < 32)
    (rest : List Char) : readChars (c :: rest) = startingWith c (readChars rest) := by
  rw [readChars]
  · rw [if_neg printed]
  all_goals simp [noQuote, noBackslash]

def signed : List Char := ['"', '\\', '\n', '\r', '\t', '\x08', '\x0c']

theorem escape_signed {c : Char} (hc : c ∈ signed) : ∃ d, escape c = ['\\', d] ∧ escaped? d = some c := by
  simp only [signed, List.mem_cons, List.not_mem_nil, or_false] at hc
  rcases hc with rfl | rfl | rfl | rfl | rfl | rfl | rfl <;> exact ⟨_, rfl, rfl⟩

theorem escape_unsigned {c : Char} (hc : c ∉ signed) :
    escape c =
      if c.toNat < 32 then ['\\', 'u', '0', '0', hexDigit (c.toNat / 16), hexDigit (c.toNat % 16)] else [c] := by
  simp only [signed, List.mem_cons, List.not_mem_nil, or_false, not_or] at hc
  simp only [escape, hc, ↓reduceIte]

theorem readChars_escape (c : Char) (rest : List Char) :
    readChars (escape c ++ rest) = startingWith c (readChars rest) := by
  by_cases hc : c ∈ signed
  · obtain ⟨d, escapes, named⟩ := escape_signed hc
    rw [escapes]
    exact readChars_named named rest
  · rw [escape_unsigned hc]
    split
    next control => exact readChars_control control rest
    next printed =>
      have noQuote : c ≠ '"' := by
        rintro rfl
        exact hc List.mem_cons_self
      have noBackslash : c ≠ '\\' := by
        rintro rfl
        exact hc (List.mem_cons_of_mem _ List.mem_cons_self)
      exact readChars_plain noQuote noBackslash printed rest

theorem readChars_append (cs rest : List Char) : readChars (cs.flatMap escape ++ '"' :: rest) = .ok (cs, rest) := by
  induction cs with
  | nil => simp [readChars]
  | cons c cs ih =>
    rw [List.flatMap_cons, List.append_assoc, readChars_escape, ih]
    rfl

theorem readText_append (value : String) (rest : List Char) :
    readText (value.toList.flatMap escape ++ '"' :: rest) = .ok (value, rest) := by
  rw [readText, readChars_append]
  simp [Except.map]

def IsScalar : Json → Prop
  | .null => True
  | .boolean _ => True
  | .integer n => leastInteger ≤ n ∧ n ≤ largestWord
  | .text _ => True
  | _ => False

theorem readScalar_digits {n : Nat} (fits : n ≤ largestWord) {rest : List Char} (stops : Stops rest) :
    readScalar (Nat.toDigits 10 n ++ rest) = .ok (.integer n, rest) := by
  have number : readNumber false (Nat.toDigits 10 n ++ rest) = .ok (.integer n, rest) := readNumber_append fits stops
  cases digits : Nat.toDigits 10 n with
  | nil => exact absurd digits Nat.toDigits_ne_nil
  | cons c tail =>
    have here : isDigit c = true := Text.isDigit_of_mem_toDigits (digits ▸ List.mem_cons_self)
    rw [digits, List.cons_append] at number
    rw [List.cons_append, readScalar]
    · rw [if_pos here, number]
      rfl
    all_goals
      rintro rfl
      cases here

theorem readScalar_integer {n : Int} (low : leastInteger ≤ n) (high : n ≤ largestWord) {rest : List Char}
    (stops : Stops rest) : readScalar (integerChars n ++ rest) = .ok (.integer n, rest) := by
  have least : leastInteger = -0x8000000000000000 := rfl
  have largest : largestWord = 0xffffffffffffffff := rfl
  unfold integerChars
  split
  next negative =>
    have fits : n.natAbs ≤ largestWord := by omega
    have small : 0 < n.natAbs ∧ n.natAbs ≤ 0x8000000000000000 := by omega
    have same : -(n.natAbs : Int) = n := by omega
    have number : readNumber true (Nat.toDigits 10 n.natAbs ++ rest) = .ok (.integer n, rest) := by
      rw [readNumber_append fits stops, wholeOf, if_neg (by decide), if_pos small, same]
    rw [List.cons_append, readScalar, number]
    rfl
  next =>
    have fits : n.natAbs ≤ largestWord := by omega
    have same : (n.natAbs : Int) = n := by omega
    rw [readScalar_digits fits stops, same]

theorem readScalar_append {v : Json} (scalar : IsScalar v) {rest : List Char} (stops : Stops rest) :
    readScalar (v.chars ++ rest) = .ok (v, rest) := by
  cases v with
  | null => simp [chars, readScalar, readWord, Except.map]
  | boolean value => cases value <;> simp [chars, readScalar, readWord, Except.map]
  | integer n => exact readScalar_integer scalar.1 scalar.2 stops
  | text value =>
    have quoted : chars (.text value) ++ rest = '"' :: (value.toList.flatMap escape ++ '"' :: rest) := by
      simp [chars, quote]
    rw [quoted, readScalar, readText_append]
    rfl
  | real value => cases scalar
  | array items => cases scalar
  | object members => cases scalar

end OriginRegistry.Json
