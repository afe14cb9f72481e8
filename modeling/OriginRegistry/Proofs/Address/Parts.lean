import OriginRegistry.Address
import OriginRegistry.Proofs.Text.Basic

set_option autoImplicit false

namespace OriginRegistry

namespace Address

open Text

def IsSchemeName (cs : List Char) : Prop :=
  (∃ c ∈ cs.head?, c.isAlpha = true) ∧ ∀ c ∈ cs, isSchemeChar c = true

theorem splitScheme_eq_some_iff {cs name rest : List Char} :
    splitScheme cs = some (name, rest) ↔
      ∃ scheme, cs = scheme ++ ':' :: rest ∧ IsSchemeName scheme ∧ scheme.map Char.toLower = name := by
  constructor
  · intro split
    unfold splitScheme at split
    cases cs with
    | nil => cases split
    | cons c cs =>
      simp only at split
      split at split
      case isFalse => cases split
      case isTrue letter =>
        split at split
        case h_2 => cases split
        case h_1 after rest' dropped =>
          obtain ⟨rfl, rfl⟩ := Prod.mk.inj (Option.some.inj split)
          have whole := List.takeWhile_append_dropWhile (p := isSchemeChar) (l := c :: cs)
          rw [dropped] at whole
          refine ⟨_, whole.symm, ⟨⟨c, ?_, letter⟩, fun x hx => List.mem_takeWhile_imp hx⟩, rfl⟩
          rw [List.takeWhile_cons_of_pos (by simp [isSchemeChar, Char.isAlphanum, letter])]
          rfl
  · rintro ⟨scheme, rfl, ⟨⟨c, first, letter⟩, chars⟩, rfl⟩
    cases scheme with
    | nil => cases first
    | cons d scheme =>
      obtain rfl : d = c := Option.some.inj first
      have stop : ∀ x ∈ (':' :: rest).head?, isSchemeChar x = false := by
        rintro x ⟨⟩
        decide
      have dropped := dropWhile_append_stop chars stop
      have taken := takeWhile_append_stop chars stop
      rw [List.cons_append] at dropped taken ⊢
      simp only [splitScheme, letter, ↓reduceIte, dropped, taken]

theorem splitLastAt_eq_none_iff {cs : List Char} : splitLastAt cs = none ↔ '@' ∉ cs := by
  have unmarked : splitLastAt cs = none ↔ cs.reverse.dropWhile (· != '@') = [] := by
    unfold splitLastAt
    cases cs.reverse.dropWhile (· != '@') <;> simp
  rw [unmarked, List.dropWhile_eq_nil_iff]
  simp only [List.mem_reverse, bne_iff_ne, ne_eq]
  exact ⟨fun all member => all '@' member rfl, fun none c hc same => none (same ▸ hc)⟩

theorem splitLastAt_eq_some_iff {cs credentials hostPort : List Char} :
    splitLastAt cs = some (credentials, hostPort) ↔ cs = credentials ++ '@' :: hostPort ∧ '@' ∉ hostPort := by
  constructor
  · intro split
    unfold splitLastAt at split
    cases found : cs.reverse.dropWhile (· != '@') with
    | nil =>
      rw [found] at split
      cases split
    | cons c before =>
      have stop := head?_dropWhile_stop (p := (· != '@')) cs.reverse c (by rw [found]; rfl)
      obtain rfl : c = '@' := by simpa using stop
      have whole := List.takeWhile_append_dropWhile (p := (· != '@')) (l := cs.reverse)
      rw [found] at split whole
      obtain ⟨rfl, rfl⟩ := Prod.mk.inj (Option.some.inj split)
      refine ⟨?_, fun member => ?_⟩
      · have backwards := congrArg List.reverse whole
        simpa using backwards.symm
      · have apart := List.mem_takeWhile_imp (List.mem_reverse.1 member)
        simp at apart
  · rintro ⟨rfl, unmarked⟩
    have all : ∀ c ∈ hostPort.reverse, (c != '@') = true := by
      intro c hc
      rw [bne_iff_ne]
      rintro rfl
      exact unmarked (List.mem_reverse.1 hc)
    have stop : ∀ c ∈ ('@' :: credentials.reverse).head?, (c != '@') = false := by
      rintro c ⟨⟩
      rfl
    have backwards : (credentials ++ '@' :: hostPort).reverse = hostPort.reverse ++ '@' :: credentials.reverse := by
      simp
    simp only [splitLastAt, backwards, dropWhile_append_stop all stop, takeWhile_append_stop all stop,
      List.reverse_reverse]

theorem splitCredentials_eq_nobody_iff {cs : List Char} :
    splitCredentials cs = ([], none) ↔ cs = [] ∨ cs = [':'] := by
  cases cs with
  | nil => simp [splitCredentials]
  | cons c cs =>
    by_cases colon : c = ':'
    · subst colon
      cases cs <;> simp [splitCredentials]
    · simp [splitCredentials, colon]

def emptyCredentials : List (List Char) := [[], ['@'], [':', '@']]

/-- Credentials are marked by the last sign there is, so that nobody is named just if they are empty. -/
theorem credentials_eq_nobody_iff {cs hostPort : List Char} :
    (splitCredentials ((splitLastAt cs).getD ([], cs)).1 = ([], none) ∧ ((splitLastAt cs).getD ([], cs)).2 = hostPort) ↔
      ∃ credentials ∈ emptyCredentials, cs = credentials ++ hostPort ∧ '@' ∉ hostPort := by
  rw [splitCredentials_eq_nobody_iff]
  constructor
  · rintro ⟨nobody, rfl⟩
    cases split : splitLastAt cs with
    | none => exact ⟨[], by decide, rfl, splitLastAt_eq_none_iff.1 split⟩
    | some parts =>
      obtain ⟨same, unmarked⟩ := splitLastAt_eq_some_iff.1 split
      rw [split] at nobody
      rcases nobody with empty | colon
      · exact ⟨['@'], by decide, by rw [same, show parts.1 = [] from empty]; rfl, unmarked⟩
      · exact ⟨[':', '@'], by decide, by rw [same, show parts.1 = [':'] from colon]; rfl, unmarked⟩
  · rintro ⟨credentials, empty, rfl, unmarked⟩
    simp only [emptyCredentials, List.mem_cons, List.not_mem_nil, or_false] at empty
    rcases empty with rfl | rfl | rfl
    · rw [List.nil_append, splitLastAt_eq_none_iff.2 unmarked]
      exact ⟨.inl rfl, rfl⟩
    · have split : splitLastAt ('@' :: hostPort) = some ([], hostPort) := splitLastAt_eq_some_iff.2 ⟨rfl, unmarked⟩
      rw [List.singleton_append, split]
      exact ⟨.inl rfl, rfl⟩
    · have split : splitLastAt (':' :: '@' :: hostPort) = some ([':'], hostPort) :=
        splitLastAt_eq_some_iff.2 ⟨rfl, unmarked⟩
      rw [List.cons_append, List.singleton_append, split]
      exact ⟨.inr rfl, rfl⟩

theorem splitHost_append (enclosed : Bool) (cs : List Char) :
    (splitHost enclosed cs).1 ++ (splitHost enclosed cs).2 = cs := by
  induction cs generalizing enclosed with
  | nil => rfl
  | cons c cs ih =>
    unfold splitHost
    split
    · rfl
    · rw [List.cons_append, ih]

theorem head?_splitHost (enclosed : Bool) (cs : List Char) : ∀ c ∈ (splitHost enclosed cs).2.head?, c = ':' := by
  induction cs generalizing enclosed with
  | nil => exact nofun
  | cons c cs ih =>
    unfold splitHost
    split
    case isTrue colon => exact fun x hx => (Option.some.inj hx).symm.trans colon.1
    case isFalse => exact ih _

theorem splitHost_plain {cs : List Char} (plain : ':' ∉ cs) (enclosed : Bool) : splitHost enclosed cs = (cs, []) := by
  have whole := splitHost_append enclosed cs
  have none : (splitHost enclosed cs).2 = [] := by
    cases rest : (splitHost enclosed cs).2 with
    | nil => rfl
    | cons c tail =>
      rw [rest] at whole
      have colon : c = ':' := head?_splitHost enclosed cs c (by rw [rest]; rfl)
      rw [← whole, colon] at plain
      exact absurd (List.mem_append_right _ List.mem_cons_self) plain
  rw [none, List.append_nil] at whole
  exact Prod.ext whole none

/-- More text goes to the port where there is one, and else to the host, if it holds no colon. -/
theorem splitHost_more {more : List Char} (plain : ':' ∉ more) (enclosed : Bool) (cs : List Char) :
    splitHost enclosed (cs ++ more) =
      if (splitHost enclosed cs).2 = [] then (cs ++ more, [])
      else ((splitHost enclosed cs).1, (splitHost enclosed cs).2 ++ more) := by
  induction cs generalizing enclosed with
  | nil => exact splitHost_plain plain enclosed
  | cons c cs ih =>
    rw [List.cons_append, splitHost, splitHost]
    by_cases colon : c = ':' ∧ !enclosed
    · simp only [colon, and_self, ↓reduceIte, List.cons_ne_nil, List.cons_append]
    · simp only [colon, ↓reduceIte, ih]
      generalize splitHost (if c = '[' then true else if c = ']' then false else enclosed) cs = parts
      by_cases portless : parts.2 = [] <;> simp only [portless, ↓reduceIte]

theorem splitHost_inside {enclosed : Bool} {front : List Char}
    (inside : ∀ c ∈ front, c ≠ '[' ∧ c ≠ ']' ∧ (c = ':' → enclosed = true)) (rest : List Char) :
    splitHost enclosed (front ++ rest) = (front ++ (splitHost enclosed rest).1, (splitHost enclosed rest).2) := by
  induction front with
  | nil => rfl
  | cons c front ih =>
    obtain ⟨⟨opening, closing, colon⟩, inside⟩ := List.forall_mem_cons.1 inside
    have inner : ¬ (c = ':' ∧ (!enclosed) = true) := by
      rintro ⟨same, outside⟩
      rw [colon same] at outside
      cases outside
    rw [List.cons_append, splitHost, if_neg inner, if_neg opening, if_neg closing, ih inside]
    rfl

theorem splitHost_closed {enclosed : Bool} {name colon : List Char} (portless : (splitHost enclosed name).2 = [])
    (closed : name.getLast? = some ']' ∨ enclosed = false ∧ '[' ∉ name) (starts : ∀ c ∈ colon.head?, c = ':') :
    splitHost enclosed (name ++ colon) = (name, colon) := by
  induction name generalizing enclosed with
  | nil =>
    obtain rfl : enclosed = false := closed.elim (fun last => by cases last) And.left
    cases colon with
    | nil => rfl
    | cons c colon => exact if_pos ⟨starts c rfl, rfl⟩
  | cons c name ih =>
    have inner : ¬ (c = ':' ∧ (!enclosed) = true) := by
      intro colon
      rw [splitHost, if_pos colon] at portless
      cases portless
    rw [splitHost, if_neg inner] at portless
    -- Behind the last closing bracket none is open, and without an opening one none ever is.
    have closed' : name.getLast? = some ']' ∨
        (if c = '[' then true else if c = ']' then false else enclosed) = false ∧ '[' ∉ name := by
      rcases closed with last | ⟨rfl, none⟩
      · cases name with
        | nil =>
          obtain rfl : c = ']' := Option.some.inj last
          exact .inr ⟨rfl, List.not_mem_nil⟩
        | cons next name => exact .inl last
      · rw [List.mem_cons, not_or] at none
        refine .inr ⟨?_, none.2⟩
        rw [if_neg (Ne.symm none.1)]
        split <;> rfl
    rw [List.cons_append, splitHost, if_neg inner, ih portless closed']

def portFrom (sum : Nat) (digits : List Char) : Nat :=
  digits.foldl (fun n c => n * 10 + (c.toNat - '0'.toNat)) sum

def portOf (digits : List Char) : Option Nat := if digits = [] then none else some (portFrom 0 digits)

theorem le_portFrom (sum : Nat) (digits : List Char) : sum ≤ portFrom sum digits := by
  induction digits generalizing sum with
  | nil => exact Nat.le_refl _
  | cons c digits ih => exact Nat.le_trans (by omega) (ih (sum * 10 + (c.toNat - '0'.toNat)))

theorem portFrom_toDigits (n : Nat) : portFrom 0 (Nat.toDigits 10 n) = n := by
  have read := Nat.ofDigitChars_toDigits (b := 10) (n := n) (by decide) (by decide)
  simpa only [Nat.ofDigitChars, portFrom, Nat.mul_comm] using read

theorem portOf_toDigits (n : Nat) : portOf (Nat.toDigits 10 n) = some n := by
  rw [portOf, if_neg Nat.toDigits_ne_nil, portFrom_toDigits]

theorem endsAuthority_iff {c : Char} :
    endsAuthority true c = true ↔ c = '/' ∨ c = '\\' ∨ c = '?' ∨ c = '#' := by
  simp [endsAuthority, isSlash, or_assoc]

theorem endsAuthority_of_isDigit {c : Char} (digit : c.isDigit = true) : endsAuthority true c = false ∧ c ≠ '@' := by
  constructor
  · rw [← Bool.not_eq_true, endsAuthority_iff]
    rintro (rfl | rfl | rfl | rfl) <;> exact absurd digit (by decide)
  · rintro rfl
    exact absurd digit (by decide)

theorem readPort_some_eq_ok_iff {cs rest : List Char} {sum : Nat} {port : Option Nat}
    (inside : ∀ c ∈ cs, endsAuthority true c = false) (small : sum < 65536) :
    readPort (some sum) cs = .ok (port, rest) ↔
      (∀ c ∈ cs, c.isDigit = true) ∧ portFrom sum cs < 65536 ∧ port = some (portFrom sum cs) ∧ rest = [] := by
  induction cs generalizing sum with
  | nil =>
    rw [readPort, Except.ok.injEq, Prod.mk.injEq]
    simp only [portFrom, List.foldl_nil, List.not_mem_nil, false_implies, implies_true, small, true_and]
    exact and_congr eq_comm eq_comm
  | cons c cs ih =>
    obtain ⟨first, inside⟩ := List.forall_mem_cons.1 inside
    have inner : ¬ (c = '/' ∨ c = '\\' ∨ c = '?' ∨ c = '#') := by
      rw [← endsAuthority_iff, first]
      decide
    rw [readPort, List.forall_mem_cons]
    by_cases digit : c.isDigit = true
    · have step : portFrom sum (c :: cs) = portFrom (sum * 10 + (c.toNat - '0'.toNat)) cs := rfl
      simp only [digit, ↓reduceIte, Option.getD_some, true_and, step]
      by_cases fits : sum * 10 + (c.toNat - '0'.toNat) < 65536
      · rw [if_pos fits, ih inside fits]
      · have grown := le_portFrom (sum * 10 + (c.toNat - '0'.toNat)) cs
        rw [if_neg fits]
        exact ⟨nofun, fun read => absurd (Nat.lt_of_le_of_lt grown read.2.1) fits⟩
    · simp [digit, inner]

theorem readPort_eq_ok_iff {cs rest : List Char} {port : Option Nat}
    (inside : ∀ c ∈ cs, endsAuthority true c = false) :
    readPort none cs = .ok (port, rest) ↔
      (∀ c ∈ cs, c.isDigit = true) ∧ portFrom 0 cs < 65536 ∧ port = portOf cs ∧ rest = [] := by
  cases cs with
  | nil =>
    rw [readPort, Except.ok.injEq, Prod.mk.injEq]
    constructor
    · rintro ⟨rfl, rfl⟩
      exact ⟨nofun, by decide, rfl, rfl⟩
    · rintro ⟨_, _, rfl, rfl⟩
      exact ⟨rfl, rfl⟩
  | cons c cs =>
    have first := inside c List.mem_cons_self
    have inner : ¬ (c = '/' ∨ c = '\\' ∨ c = '?' ∨ c = '#') := by
      rw [← endsAuthority_iff, first]
      decide
    have same : readPort none (c :: cs) = readPort (some 0) (c :: cs) := by
      simp only [readPort, inner, ↓reduceIte, Option.getD_none, Option.getD_some]
    rw [same, readPort_some_eq_ok_iff inside (by decide), portOf, if_neg (List.cons_ne_nil c cs)]

theorem splitTail_eq_plain_iff {cs path : List Char} :
    splitTail cs = (path, none, none) ↔ cs = path ∧ ∀ c ∈ path, c ≠ '?' ∧ c ≠ '#' := by
  constructor
  · intro split
    have whole := List.takeWhile_append_dropWhile (p := fun c => c != '?' && c != '#') (l := cs)
    have all : ∀ c ∈ cs.takeWhile (fun c => c != '?' && c != '#'), c ≠ '?' ∧ c ≠ '#' := by
      intro c hc
      simpa using List.mem_takeWhile_imp hc
    unfold splitTail at split
    cases dropped : cs.dropWhile fun c => c != '?' && c != '#' with
    | nil =>
      rw [dropped] at split whole
      obtain ⟨rfl, _⟩ := Prod.mk.inj split
      exact ⟨whole.symm.trans (List.append_nil _), all⟩
    | cons c tail =>
      rw [dropped] at split
      by_cases query : c = '?'
      · subst query
        simp only at split
        split at split <;> cases split
      · simp only at split
        cases split
  · rintro ⟨rfl, plain⟩
    have all : ∀ c ∈ cs, (c != '?' && c != '#') = true := by simpa using plain
    have taken : cs.takeWhile (fun c => c != '?' && c != '#') = cs := List.takeWhile_eq_self_iff.2 all
    have dropped : cs.dropWhile (fun c => c != '?' && c != '#') = [] := List.dropWhile_eq_nil_iff.2 all
    simp only [splitTail, taken, dropped]

theorem followDots_ne_nil {before segments : List (List Char)} (some : segments ≠ []) :
    followDots before segments ≠ [] := by
  fun_induction followDots before segments with
  | case1 => exact absurd rfl some
  | case2 | case3 | case4 => simp
  | case5 _ _ _ more _ ih | case6 _ _ _ more _ _ ih | case7 _ _ _ more _ _ ih => exact ih more

theorem segments_ne_nil (path : List Char) : segments true path ≠ [] := by
  unfold segments
  split
  · simp
  · exact followDots_ne_nil (splitOn_ne_nil _ _)
  · exact followDots_ne_nil (splitOn_ne_nil _ _)

end Address

end OriginRegistry
