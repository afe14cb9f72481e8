import Mathlib.Data.Bool.AllAny
import Mathlib.Data.List.Basic
import Mathlib.Data.List.TakeWhile
import OriginRegistry.Text.Blank
import OriginRegistry.Text.Digit
import OriginRegistry.Text.Percent
import OriginRegistry.Text.Split

set_option autoImplicit false

namespace OriginRegistry.Text

/-- What holds of each ASCII character is found by looking at all of them. -/
theorem forall_ascii {p : Char → Bool} (all : ∀ n < 128, p (Char.ofNat n) = true) {c : Char} (ascii : c.toNat < 128) :
    p c = true := by
  have here := all c.toNat ascii
  rwa [Char.ofNat_toNat] at here

theorem toLower_beyond {c : Char} (beyond : 128 ≤ c.toNat) : c.toLower = c := by
  have large : ¬ (c.val ≥ 'A'.val ∧ c.val ≤ 'Z'.val) := fun letter =>
    absurd (UInt32.le_iff_toNat_le.1 letter.2) (Nat.not_le_of_lt (Nat.lt_of_lt_of_le (by decide) beyond))
  exact dif_neg large

theorem apply_toLower {α : Type} {f : Char → α} (ascii : ∀ n < 128, f (Char.ofNat n).toLower = f (Char.ofNat n))
    (c : Char) : f c.toLower = f c := by
  by_cases here : c.toNat < 128
  · have same := ascii c.toNat here
    rwa [Char.ofNat_toNat] at same
  · rw [toLower_beyond (Nat.le_of_not_lt here)]

theorem hexDigit?_digitChar : ∀ n < 16, hexDigit? (Nat.digitChar n) = some n := by decide

def lowerHexDigits : List Char :=
  ['0', '1', '2', '3', '4', '5', '6', '7', '8', '9', 'a', 'b', 'c', 'd', 'e', 'f']

theorem digitChar_mem : ∀ n < 16, Nat.digitChar n ∈ lowerHexDigits := by decide

theorem mem_toDigits {base n : Nat} (low : 1 < base) (high : base ≤ 16) {c : Char} (hc : c ∈ Nat.toDigits base n) :
    c ∈ lowerHexDigits := by
  induction n using Nat.strongRecOn with
  | ind n ih =>
    rw [Nat.toDigits_eq_if low] at hc
    split at hc
    next small =>
      rw [List.mem_singleton.1 hc]
      exact digitChar_mem n (by omega)
    next large =>
      rcases List.mem_append.1 hc with hc | hc
      · exact ih (n / base) (Nat.div_lt_self (by omega) low) hc
      · rw [List.mem_singleton.1 hc]
        have small := Nat.mod_lt n (show base > 0 by omega)
        exact digitChar_mem (n % base) (by omega)

theorem digitChar_ne_zero {n : Nat} (pos : 0 < n) : Nat.digitChar n ≠ '0' :=
  fun same => Nat.pos_iff_ne_zero.1 pos (Nat.digitChar_eq_zero.1 same)

theorem head_toDigits {n : Nat} (pos : 0 < n) : (Nat.toDigits 10 n).head? ≠ some '0' := by
  induction n using Nat.strongRecOn with
  | ind n ih =>
    rw [Nat.toDigits_eq_if (by omega)]
    split
    next small => simpa using digitChar_ne_zero pos
    next large =>
      have shorter := ih (n / 10) (by omega) (by omega)
      cases digits : Nat.toDigits 10 (n / 10) with
      | nil => exact absurd digits Nat.toDigits_ne_nil
      | cons c cs => simpa [digits] using shorter

theorem isDigit_of_mem_toDigits {n : Nat} {c : Char} (hc : c ∈ Nat.toDigits 10 n) : isDigit c = true :=
  Nat.isDigit_of_mem_toDigits (by decide) (by decide) hc

theorem isDigit_bounds {c : Char} (digit : isDigit c = true) : 48 ≤ c.toNat ∧ c.toNat ≤ 57 := by
  simp only [isDigit, Bool.and_eq_true, decide_eq_true_eq, Char.le_def, UInt32.le_iff_toNat_le] at digit
  exact digit

theorem not_blank_of_isDigit {c : Char} (digit : isDigit c = true) : isBlank c = false := by
  have bounds := isDigit_bounds digit
  simp [isBlank]
  omega

theorem le_ofDigitChars (digits : List Char) (n : Nat) : n ≤ Nat.ofDigitChars 10 digits n := by
  induction digits generalizing n with
  | nil => exact Nat.le_refl n
  | cons c digits ih =>
    have step := ih (10 * n + (c.toNat - '0'.toNat))
    change n ≤ Nat.ofDigitChars 10 digits (10 * n + (c.toNat - '0'.toNat))
    omega

section Stop

variable {p : Char → Bool} {cs front rest core before after : List Char}

theorem takeWhile_append_stop (all : ∀ c ∈ front, p c = true) (stop : ∀ c ∈ rest.head?, p c = false) :
    (front ++ rest).takeWhile p = front := by
  rw [List.takeWhile_append_of_pos all]
  cases rest with
  | nil => simp
  | cons c rest => rw [List.takeWhile_cons_of_neg (by simp [stop c rfl]), List.append_nil]

theorem dropWhile_append_stop (all : ∀ c ∈ front, p c = true) (stop : ∀ c ∈ rest.head?, p c = false) :
    (front ++ rest).dropWhile p = rest := by
  rw [List.dropWhile_append_of_pos all]
  cases rest with
  | nil => rfl
  | cons c rest => rw [List.dropWhile_cons_of_neg (by simp [stop c rfl])]

/-- Where both stop, a text is taken apart in one way. -/
theorem append_stop_inj {front' rest' : List Char} (same : front ++ rest = front' ++ rest')
    (all : ∀ c ∈ front, p c = true) (stop : ∀ c ∈ rest.head?, p c = false) (all' : ∀ c ∈ front', p c = true)
    (stop' : ∀ c ∈ rest'.head?, p c = false) : front = front' ∧ rest = rest' := by
  constructor
  · rw [← takeWhile_append_stop all stop, same, takeWhile_append_stop all' stop']
  · rw [← dropWhile_append_stop all stop, same, dropWhile_append_stop all' stop']

theorem head?_dropWhile_stop (cs : List Char) : ∀ c ∈ (cs.dropWhile p).head?, p c = false := by
  intro c hc
  have stop := List.head?_dropWhile_not p cs
  rw [Option.mem_def.1 hc] at stop
  exact stop

theorem trimEnds_append (blank : ∀ c ∈ before, p c = true) (blankAfter : ∀ c ∈ after, p c = true)
    (starts : ∀ c ∈ core.head?, p c = false) (ends : ∀ c ∈ core.getLast?, p c = false) (some : core ≠ []) :
    trimEnds p (before ++ core ++ after) = core := by
  have front : (before ++ (core ++ after)).dropWhile p = core ++ after := by
    refine dropWhile_append_stop blank ?_
    rwa [List.head?_append_of_ne_nil core some]
  have back : (after.reverse ++ core.reverse).dropWhile p = core.reverse := by
    refine dropWhile_append_stop (fun c hc => blankAfter c (List.mem_reverse.1 hc)) ?_
    rwa [List.head?_reverse]
  rw [trimEnds, List.append_assoc, front, List.reverse_append, back, List.reverse_reverse]

theorem exists_trimmed (p : Char → Bool) (cs : List Char) :
    ∃ before after, cs = before ++ trimEnds p cs ++ after ∧ (∀ c ∈ before, p c = true) ∧ (∀ c ∈ after, p c = true) ∧
      ∀ c ∈ (trimEnds p cs).getLast?, p c = false := by
  refine ⟨cs.takeWhile p, ((cs.dropWhile p).reverse.takeWhile p).reverse, ?_, ?_, ?_, ?_⟩
  · rw [trimEnds, List.append_assoc, ← List.reverse_append, List.takeWhile_append_dropWhile, List.reverse_reverse,
      List.takeWhile_append_dropWhile]
  · exact fun c hc => List.mem_takeWhile_imp hc
  · exact fun c hc => List.mem_takeWhile_imp (List.mem_reverse.1 hc)
  · rw [trimEnds, List.getLast?_reverse]
    exact head?_dropWhile_stop _

theorem head?_trimEnds (p : Char → Bool) (cs : List Char) : ∀ c ∈ (trimEnds p cs).head?, p c = false := by
  intro c hc
  have stop := head?_dropWhile_stop (p := p) cs
  have kept : trimEnds p cs ++ ((cs.dropWhile p).reverse.takeWhile p).reverse = cs.dropWhile p := by
    rw [trimEnds, ← List.reverse_append, List.takeWhile_append_dropWhile, List.reverse_reverse]
  rw [← kept, List.head?_append, Option.mem_def.1 hc] at stop
  exact stop c rfl

theorem eq_nil_of_ends (all : ∀ c ∈ after, p c = true) (ends : ∀ c ∈ (front ++ after).getLast?, p c = false) :
    after = [] := by
  by_contra some
  rw [List.getLast?_append_of_ne_nil _ some] at ends
  have last := List.getLast?_eq_some_getLast some
  have kept := ends _ last
  rw [all _ (List.mem_of_mem_getLast? last)] at kept
  cases kept

theorem trim_around (unblank : ∀ c ∈ core, isBlank c = false) (some : core ≠ [])
    (blank : ∀ c ∈ before, isBlank c = true) (blankAfter : ∀ c ∈ after, isBlank c = true) :
    trim (before ++ core ++ after) = core :=
  trimEnds_append blank blankAfter (fun c hc => unblank c (List.mem_of_mem_head? hc))
    (fun c hc => unblank c (List.mem_of_mem_getLast? hc)) some

theorem trim_of_unblank (unblank : ∀ c ∈ cs, isBlank c = false) (some : cs ≠ []) : trim cs = cs := by
  have trimmed : trim ([] ++ cs ++ []) = cs := trim_around unblank some nofun nofun
  rwa [List.append_nil] at trimmed

theorem trim_padded (unblank : ∀ c ∈ trim cs, isBlank c = false) (some : trim cs ≠ [])
    (blank : ∀ c ∈ before, isBlank c = true) (blankAfter : ∀ c ∈ after, isBlank c = true) :
    trim (before ++ cs ++ after) = trim cs := by
  obtain ⟨front, back, whole, blankFront, blankBack, _⟩ := exists_trimmed isBlank cs
  have joined : before ++ cs ++ after = (before ++ front) ++ trim cs ++ (back ++ after) := by
    conv_lhs => rw [whole]
    simp only [trim, List.append_assoc]
  rw [joined]
  exact trim_around unblank some (List.forall_mem_append.2 ⟨blank, blankFront⟩)
    (List.forall_mem_append.2 ⟨blankBack, blankAfter⟩)

theorem exists_trimmed_front (ends : ∀ c ∈ cs.getLast?, isBlank c = false) :
    ∃ front, cs = front ++ trim cs ∧ ∀ c ∈ front, isBlank c = true := by
  obtain ⟨front, back, whole, blank, blankBack, _⟩ := exists_trimmed isBlank cs
  rw [whole] at ends
  obtain rfl : back = [] := eq_nil_of_ends blankBack ends
  exact ⟨front, whole.trans (List.append_nil _), blank⟩

theorem getLast?_trim (some : trim cs ≠ []) (ends : ∀ c ∈ cs.getLast?, isBlank c = false) :
    (trim cs).getLast? = cs.getLast? := by
  obtain ⟨front, whole, _⟩ := exists_trimmed_front ends
  conv_rhs => rw [whole, List.getLast?_append_of_ne_nil _ some]

/-- What was trimmed at the end of a text is kept once more text stands behind it. -/
theorem trimEnds_behind (some : trimEnds p cs ≠ []) {x : Char} (last : cs.getLast? = Option.some x) {more : List Char}
    (longer : more ≠ []) (ends : ∀ c ∈ more.getLast?, p c = false) :
    ∃ front, trimEnds p (cs ++ more) = front ++ x :: more := by
  have kept : cs.dropWhile p ≠ [] := by
    intro empty
    rw [trimEnds, empty] at some
    exact some rfl
  have dropped : (cs ++ more).dropWhile p = cs.dropWhile p ++ more := by
    rw [List.dropWhile_append, if_neg (by simpa using kept)]
  have end_eq : (cs.dropWhile p).getLast? = Option.some x := by
    rw [← last]
    conv_rhs => rw [← List.takeWhile_append_dropWhile (p := p) (l := cs), List.getLast?_append_of_ne_nil _ kept]
  obtain ⟨front, whole⟩ := List.getLast?_eq_some_iff.1 end_eq
  refine ⟨front, ?_⟩
  have stop : ∀ c ∈ (more.reverse ++ (cs.dropWhile p).reverse).head?, p c = false := by
    rwa [List.head?_append_of_ne_nil _ (by simpa using longer), List.head?_reverse]
  have back : (more.reverse ++ (cs.dropWhile p).reverse).dropWhile p = more.reverse ++ (cs.dropWhile p).reverse :=
    dropWhile_append_stop (List.forall_mem_nil _) stop
  rw [trimEnds, dropped, List.reverse_append, back, List.reverse_append, List.reverse_reverse, List.reverse_reverse, whole,
    List.append_assoc]
  rfl

theorem trim_append {more : List Char} (unblank : ∀ c ∈ trim cs, isBlank c = false) (some : trim cs ≠ [])
    (ends : ∀ c ∈ cs.getLast?, isBlank c = false) (unblankMore : ∀ c ∈ more, isBlank c = false) :
    trim (cs ++ more) = trim cs ++ more := by
  obtain ⟨front, whole, blank⟩ := exists_trimmed_front ends
  have joined : cs ++ more = front ++ (trim cs ++ more) ++ [] := by
    conv_lhs => rw [whole]
    simp only [List.append_assoc, List.append_nil]
  rw [joined]
  exact trim_around (List.forall_mem_append.2 ⟨unblank, unblankMore⟩) (List.append_ne_nil_of_left_ne_nil some more) blank
    nofun

end Stop

section Split

variable {separator : Char}

theorem splitOn_ne_nil (separator : Char) (cs : List Char) : splitOn separator cs ≠ [] := by
  induction cs with
  | nil => simp [splitOn]
  | cons c cs ih =>
    unfold splitOn
    split
    · simp
    · split <;> simp

theorem splitOn_append {part : List Char} (apart : separator ∉ part) {rest first : List Char} {others : List (List Char)}
    (split : splitOn separator rest = first :: others) : splitOn separator (part ++ rest) = (part ++ first) :: others := by
  induction part with
  | nil => exact split
  | cons c part ih =>
    rw [List.mem_cons, not_or] at apart
    rw [List.cons_append, splitOn, if_neg (Ne.symm apart.1), ih apart.2]
    rfl

theorem splitOn_whole {part : List Char} (apart : separator ∉ part) : splitOn separator part = [part] := by
  have split : splitOn separator (part ++ []) = [part ++ []] := splitOn_append apart rfl
  rwa [List.append_nil] at split

theorem splitOn_separator {part : List Char} (apart : separator ∉ part) (rest : List Char) :
    splitOn separator (part ++ separator :: rest) = part :: splitOn separator rest := by
  have split : splitOn separator (separator :: rest) = [] :: splitOn separator rest := by rw [splitOn, if_pos rfl]
  rw [splitOn_append apart split, List.append_nil]

theorem splitOn_concat (separator : Char) (cs : List Char) :
    splitOn separator (cs ++ [separator]) = splitOn separator cs ++ [[]] := by
  induction cs with
  | nil => exact if_pos rfl
  | cons c cs ih =>
    rw [List.cons_append, splitOn, splitOn, ih]
    obtain ⟨part, parts, some⟩ := List.exists_cons_of_ne_nil (splitOn_ne_nil separator cs)
    rw [some]
    split <;> rfl

theorem getLast?_splitOn {cs : List Char} (empty : (splitOn separator cs).getLast? = some []) :
    ∀ c ∈ cs.getLast?, c = separator := by
  induction cs with
  | nil => exact nofun
  | cons c cs ih =>
    obtain ⟨part, parts, same⟩ := List.exists_cons_of_ne_nil (splitOn_ne_nil separator cs)
    have later (last : (part :: parts).getLast? = some []) (here : cs = [] → c = separator) :
        ∀ d ∈ (c :: cs).getLast?, d = separator := by
      cases cs with
      | nil =>
        rintro d ⟨⟩
        exact here rfl
      | cons next cs =>
        rw [List.getLast?_cons_cons]
        exact ih (same ▸ last)
    rw [splitOn, same] at empty
    split at empty
    next separates => exact later empty fun _ => separates
    next =>
      cases parts with
      | nil => cases empty
      | cons second parts =>
        refine later empty ?_
        rintro rfl
        cases same

theorem getLast?_splitOn_concat {c : Char} (other : c ≠ separator) (cs : List Char) :
    ∃ last, (splitOn separator (cs ++ [c])).getLast? = some (last ++ [c]) := by
  induction cs with
  | nil => exact ⟨[], by simp [splitOn, other]⟩
  | cons d cs ih =>
    obtain ⟨last, ends⟩ := ih
    rw [List.cons_append, splitOn]
    cases parts : splitOn separator (cs ++ [c]) with
    | nil =>
      rw [parts] at ends
      cases ends
    | cons part more =>
      rw [parts] at ends
      split
      next => exact ⟨last, ends⟩
      next =>
        cases more with
        | nil =>
          obtain rfl : part = last ++ [c] := Option.some.inj ends
          exact ⟨d :: last, rfl⟩
        | cons next more => exact ⟨last, ends⟩

theorem splitOn_joinWith {parts : List (List Char)} (some : parts ≠ []) (apart : ∀ part ∈ parts, separator ∉ part) :
    splitOn separator (joinWith separator parts) = parts := by
  induction parts with
  | nil => exact absurd rfl some
  | cons part parts ih =>
    have here := apart part List.mem_cons_self
    cases parts with
    | nil => exact splitOn_whole here
    | cons next parts =>
      rw [joinWith, splitOn_separator here, ih (List.cons_ne_nil _ _) fun p hp => apart p (List.mem_cons_of_mem part hp)]
      exact List.cons_ne_nil _ _

theorem joinWith_splitOn (cs : List Char) : joinWith separator (splitOn separator cs) = cs := by
  induction cs with
  | nil => rfl
  | cons c cs ih =>
    unfold splitOn
    split
    · rename_i same
      obtain ⟨part, parts, some⟩ := List.exists_cons_of_ne_nil (splitOn_ne_nil separator cs)
      rw [some] at ih ⊢
      rw [joinWith, ih, same, List.nil_append]
      exact List.cons_ne_nil _ _
    · obtain ⟨part, parts, some⟩ := List.exists_cons_of_ne_nil (splitOn_ne_nil separator cs)
      rw [some] at ih ⊢
      cases parts with
      | nil => exact congrArg (c :: ·) ih
      | cons next parts => exact congrArg (c :: ·) ih

theorem mem_joinWith {parts : List (List Char)} {c : Char} (hc : c ∈ joinWith separator parts) :
    c = separator ∨ ∃ part ∈ parts, c ∈ part := by
  induction parts with
  | nil => cases hc
  | cons part parts ih =>
    cases parts with
    | nil => exact .inr ⟨part, List.mem_cons_self, hc⟩
    | cons next parts =>
      rw [joinWith, List.mem_append, List.mem_cons] at hc
      · rcases hc with here | same | later
        · exact .inr ⟨part, List.mem_cons_self, here⟩
        · exact .inl same
        · exact (ih later).imp_right fun ⟨p, hp, inside⟩ => ⟨p, List.mem_cons_of_mem part hp, inside⟩
      · exact List.cons_ne_nil _ _

theorem mem_of_mem_splitOn {cs part : List Char} (hp : part ∈ splitOn separator cs) {c : Char} (hc : c ∈ part) :
    c ∈ cs := by
  induction cs generalizing part with
  | nil =>
    rw [splitOn, List.mem_singleton] at hp
    rw [hp] at hc
    exact hc
  | cons d cs ih =>
    unfold splitOn at hp
    split at hp
    · rcases List.mem_cons.1 hp with rfl | hp
      · cases hc
      · exact List.mem_cons_of_mem d (ih hp hc)
    · obtain ⟨first, others, some⟩ := List.exists_cons_of_ne_nil (splitOn_ne_nil separator cs)
      rw [some] at hp ih
      rcases List.mem_cons.1 hp with rfl | hp
      · rcases List.mem_cons.1 hc with rfl | hc
        · exact List.mem_cons_self
        · exact List.mem_cons_of_mem d (ih List.mem_cons_self hc)
      · exact List.mem_cons_of_mem d (ih (List.mem_cons_of_mem first hp) hc)

end Split

theorem pieces_plain {cs : List Char} (plain : '%' ∉ cs) : pieces cs = cs.map .char := by
  induction cs with
  | nil => rfl
  | cons c cs ih =>
    rw [List.mem_cons, not_or] at plain
    rw [pieces, ih plain.2, List.map_cons]
    rintro _ _ _ rfl
    exact absurd rfl plain.1

theorem percentDecode_plain {cs : List Char} (plain : '%' ∉ cs) : percentDecode cs = .ok cs := by
  have read : readings none (cs.map Piece.char) = cs.map .char := by
    induction cs with
    | nil => rfl
    | cons c cs ih => rw [List.map_cons, readings, ih fun hc => plain (List.mem_cons_of_mem c hc), List.map_cons]
  have kept (index : Nat) : allCharacters index (cs.map Reading.char) = .ok cs := by
    clear read plain
    induction cs generalizing index with
    | nil => rfl
    | cons c cs ih =>
      rw [List.map_cons, allCharacters, ih]
      rfl
  rw [percentDecode, pieces_plain plain, read, kept]

section Kept

variable {c : Char} {cs ds : List Char}

theorem mem_pieces (percent : c ≠ '%') (other : hexDigit? c = none) (member : c ∈ cs) : .char c ∈ pieces cs := by
  fun_induction pieces cs with
  | case1 => cases member
  | case2 a b cs high low first second ih =>
    have later : c ∈ cs := by
      have differs {d : Char} {n : Nat} (digit : hexDigit? d = some n) : c ≠ d := by
        rintro rfl
        rw [other] at digit
        cases digit
      simpa [percent, differs first, differs second] using member
    exact List.mem_cons_of_mem _ (ih later)
  | case3 a b cs _ ih => exact List.mem_cons_of_mem _ (ih ((List.mem_cons.1 member).resolve_left percent))
  | case4 d cs _ ih =>
    rcases List.mem_cons.1 member with rfl | later
    · exact List.mem_cons_self
    · exact List.mem_cons_of_mem _ (ih later)

theorem mem_readings {begun : Option Begun} {ps : List Piece} (member : .char c ∈ ps) : .char c ∈ readings begun ps := by
  induction ps generalizing begun with
  | nil => cases member
  | cons p ps ih =>
    cases p with
    | char d =>
      have kept : d = c ∨ .char c ∈ readings none ps := by
        rcases List.mem_cons.1 member with same | later
        · exact .inl (Piece.char.inj same).symm
        · exact .inr (ih later)
      cases begun <;> simpa [readings, eq_comm] using kept
    | byte n =>
      have later (more : Option Begun) : .char c ∈ readings more ps :=
        ih ((List.mem_cons.1 member).resolve_left Piece.noConfusion)
      cases begun with
      | none =>
        rw [readings]
        split
        next => exact List.mem_cons_of_mem _ (later none)
        next b _ => exact later (some b)
      | some b =>
        rw [readings]
        split
        next b _ =>
          split
          next => exact List.mem_cons_of_mem _ (later none)
          next => exact later (some b)
        next =>
          split
          next => exact List.mem_cons_of_mem _ (List.mem_cons_of_mem _ (later none))
          next b _ => exact List.mem_cons_of_mem _ (later (some b))

theorem mem_allCharacters {index : Nat} {rs : List Reading} (read : allCharacters index rs = .ok ds)
    (member : .char c ∈ rs) : c ∈ ds := by
  induction rs generalizing index ds with
  | nil => cases member
  | cons r rs ih =>
    cases r with
    | broken size cut => cases read
    | char d =>
      rw [allCharacters] at read
      cases rest : allCharacters (index + d.utf8Size) rs with
      | error e =>
        rw [rest] at read
        cases read
      | ok more =>
        rw [rest] at read
        obtain rfl : d :: more = ds := Except.ok.inj read
        rcases List.mem_cons.1 member with same | later
        · exact List.mem_cons.2 (.inl (Reading.char.inj same))
        · exact List.mem_cons_of_mem d (ih rest later)

/-- What is neither a percent sign nor a digit behind one is kept. -/
theorem mem_percentDecode (percent : c ≠ '%') (other : hexDigit? c = none) (read : percentDecode cs = .ok ds)
    (member : c ∈ cs) : c ∈ ds :=
  mem_allCharacters read (mem_readings (mem_pieces percent other member))

end Kept

end OriginRegistry.Text
