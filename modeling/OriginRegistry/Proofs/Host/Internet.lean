import Mathlib.Algebra.Group.Nat.Defs
import OriginRegistry.Host.IPv6
import OriginRegistry.Proofs.Text.Basic

set_option autoImplicit false

namespace OriginRegistry.Host

open Text (splitOn joinWith splitOn_joinWith mem_joinWith mem_toDigits lowerHexDigits)

namespace IPv4

theorem digits?_append (base sum : Nat) (front back : List Char) :
    digits? base sum (front ++ back) = (digits? base sum front).bind fun n => digits? base n back := by
  induction front generalizing sum with
  | nil => rfl
  | cons c front ih =>
    rw [List.cons_append, digits?, digits?]
    cases digit? base c with
    | none => rfl
    | some d => exact ih (base * sum + d)

theorem digit?_digitChar {base d : Nat} (high : base ≤ 16) (small : d < base) :
    digit? base (Nat.digitChar d) = some d := by
  rw [digit?, Text.hexDigit?_digitChar d (by omega)]
  exact if_pos small

theorem digits?_toDigits {base : Nat} (low : 1 < base) (high : base ≤ 16) (n : Nat) :
    digits? base 0 (Nat.toDigits base n) = some n := by
  induction n using Nat.strongRecOn with
  | ind n ih =>
    rw [Nat.toDigits_eq_if low]
    split
    next small => simp [digits?, digit?_digitChar high small]
    next large =>
      have small := Nat.mod_lt n (show base > 0 by omega)
      have value := Nat.div_add_mod n base
      rw [digits?_append, ih (n / base) (Nat.div_lt_self (by omega) low)]
      simp [digits?, digit?_digitChar high small, value]

theorem digit?_lt {base d : Nat} {c : Char} (read : digit? base c = some d) : d < base := by
  unfold digit? at read
  split at read
  · split at read
    next below => rwa [← Option.some.inj read]
    next => cases read
  · cases read

theorem digits?_lt {base sum n : Nat} {cs : List Char} (read : digits? base sum cs = some n) :
    n < (sum + 1) * base ^ cs.length := by
  induction cs generalizing sum with
  | nil =>
    obtain rfl := Option.some.inj read
    simp
  | cons c cs ih =>
    rw [digits?] at read
    cases digit : digit? base c with
    | none =>
      rw [digit] at read
      cases read
    | some d =>
      rw [digit] at read
      have small := digit?_lt digit
      have grown : base * sum + d + 1 ≤ (sum + 1) * base := by
        rw [Nat.add_mul, Nat.mul_comm]
        omega
      calc n < (base * sum + d + 1) * base ^ cs.length := ih read
        _ ≤ (sum + 1) * base * base ^ cs.length := Nat.mul_le_mul_right _ grown
        _ = (sum + 1) * base ^ (c :: cs).length := by
          rw [List.length_cons, Nat.pow_succ, Nat.mul_assoc, Nat.mul_comm base]

theorem numbers?_length {parts : List (List Char)} {ns : List Nat} (read : numbers? parts = some ns) :
    ns.length = parts.length := by
  induction parts generalizing ns with
  | nil =>
    obtain rfl := Option.some.inj read
    rfl
  | cons part parts ih =>
    rw [numbers?] at read
    split at read
    next n ns _ rest =>
      obtain rfl := Option.some.inj read
      rw [List.length_cons, List.length_cons, ih rest]
    next => cases read

theorem combine?_lt {width a : Nat} {ns : List Nat} (few : ns.length ≤ width) (read : combine? width ns = some a) :
    a < 256 ^ width := by
  induction ns generalizing width a with
  | nil => cases read
  | cons n ns ih =>
    cases ns with
    | nil =>
      rw [combine?, Option.ite_none_right_eq_some] at read
      exact Option.some.inj read.2 ▸ read.1
    | cons m ns =>
      obtain ⟨width, rfl⟩ : ∃ w, width = w + 1 := ⟨width - 1, by simp at few; omega⟩
      rw [combine?, Option.ite_none_right_eq_some, Option.map_eq_some_iff] at read
      · obtain ⟨small, rest, combined, rfl⟩ := read
        have below := ih (Nat.le_of_succ_le_succ few) combined
        calc n * 256 ^ width + rest < n * 256 ^ width + 256 ^ width := Nat.add_lt_add_left below _
          _ = (n + 1) * 256 ^ width := (Nat.succ_mul n _).symm
          _ ≤ 256 * 256 ^ width := Nat.mul_le_mul_right _ small
          _ = 256 ^ (width + 1) := (Nat.pow_succ').symm
      · simp

theorem parse?_lt {cs : List Char} {a : Nat} (read : parse? cs = some a) : a < 2 ^ 32 := by
  simp only [parse?] at read
  split at read
  next => cases read
  next few =>
    obtain ⟨ns, numbers, combined⟩ := Option.bind_eq_some_iff.1 read
    have length := numbers?_length numbers
    exact combine?_lt (show ns.length ≤ 4 by omega) combined

theorem number?_byte : ∀ n < 256, number? (Nat.toDigits 10 n) = some n := by decide +kernel

theorem dot_not_mem_toDigits {base : Nat} (low : 1 < base) (high : base ≤ 16) (n : Nat) : '.' ∉ Nat.toDigits base n :=
  fun dot => absurd (mem_toDigits low high dot) (by decide)

def written (address : Nat) : List (List Char) :=
  [address / 0x1000000, address / 0x10000, address / 0x100, address].map fun n => Nat.toDigits 10 (n % 256)

theorem parts_text (address : Nat) : parts (text address) = written address := by
  have apart : ∀ part ∈ written address, '.' ∉ part := by
    intro part hp
    obtain ⟨n, _, rfl⟩ := List.mem_map.1 hp
    exact dot_not_mem_toDigits (by omega) (by omega) _
  have split : splitOn '.' (text address) = written address :=
    splitOn_joinWith (List.cons_ne_nil _ _) apart
  simp only [parts, split]
  rw [if_neg]
  simp [written, Nat.toDigits_ne_nil]

theorem text_ne_nil (address : Nat) : text address ≠ [] := by
  intro empty
  have split := parts_text address
  rw [empty] at split
  have lengths : 1 = 4 := congrArg List.length split
  cases lengths

theorem numbers?_written (address : Nat) :
    numbers? (written address) =
      some [address / 0x1000000 % 256, address / 0x10000 % 256, address / 0x100 % 256, address % 256] := by
  have byte (n : Nat) : number? (Nat.toDigits 10 (n % 256)) = some (n % 256) :=
    number?_byte _ (Nat.mod_lt n (by decide))
  simp only [written, List.map_cons, List.map_nil, numbers?, byte]

theorem combine?_cons {width n : Nat} {ns : List Nat} (small : n < 256) (more : ns ≠ []) :
    combine? (width + 1) (n :: ns) = (combine? width ns).map (n * 256 ^ width + ·) := by
  rw [combine?]
  · exact if_pos small
  · exact more

theorem parse?_text {address : Nat} (fits : address < 2 ^ 32) : parse? (text address) = some address := by
  have byte (n : Nat) : n % 256 < 256 := Nat.mod_lt n (by decide)
  have last : combine? 1 [address % 256] = some (address % 256) := if_pos (byte address)
  have value : address / 0x1000000 % 256 * 256 ^ 3 +
      (address / 0x10000 % 256 * 256 ^ 2 + (address / 0x100 % 256 * 256 ^ 1 + address % 256)) = address := by
    omega
  have combined : combine? 4
      [address / 0x1000000 % 256, address / 0x10000 % 256, address / 0x100 % 256, address % 256] = some address := by
    rw [combine?_cons (byte _) (List.cons_ne_nil _ _), combine?_cons (byte _) (List.cons_ne_nil _ _),
      combine?_cons (byte _) (List.cons_ne_nil _ _), last]
    exact congrArg some value
  simp only [parse?, parts_text, numbers?_written]
  rw [if_neg (show ¬ (written address).length > 4 by simp [written])]
  exact combined

theorem mem_text {address : Nat} {c : Char} (hc : c ∈ text address) : c = '.' ∨ c ∈ lowerHexDigits := by
  refine (mem_joinWith hc).imp_right ?_
  rintro ⟨part, hp, inside⟩
  obtain ⟨n, _, rfl⟩ := List.mem_map.1 hp
  exact mem_toDigits (by decide) (by decide) inside

theorem endsInNumber_text (address : Nat) : endsInNumber (text address) = true := by
  have last : (written address).getLast? = some (Nat.toDigits 10 (address % 256)) := rfl
  rw [endsInNumber, parts_text, last]
  have number := number?_byte (address % 256) (Nat.mod_lt address (by decide))
  split
  next => contradiction
  next empty => exact absurd (Option.some.inj empty) Nat.toDigits_ne_nil
  next found => rw [← Option.some.inj found, number, Option.isSome_some, Bool.or_true]

end IPv4

namespace IPv6

open IPv4 (digits?_lt digits?_toDigits)

theorem group?_lt {cs : List Char} {n : Nat} (read : group? cs = some n) : n < 65536 := by
  rw [group?, Option.ite_none_right_eq_some] at read
  obtain ⟨short, digits⟩ := read
  rw [Bool.and_eq_true, decide_eq_true_eq, decide_eq_true_eq] at short
  calc n < (0 + 1) * 16 ^ cs.length := digits?_lt digits
    _ = 16 ^ cs.length := by rw [Nat.zero_add, Nat.one_mul]
    _ ≤ 16 ^ 4 := Nat.pow_le_pow_right (by decide) short.2

theorem byte?_lt {cs : List Char} {n : Nat} (read : byte? cs = some n) : n < 256 := by
  unfold byte? at read
  split at read
  · cases read
  · obtain rfl := Option.some.inj read
    decide
  · cases read
  · split at read
    · rw [Option.ite_none_right_eq_some] at read
      exact Option.some.inj read.2 ▸ read.1
    · cases read

theorem embedded?_lt {cs : List Char} {gs : List Nat} (read : embedded? cs = some gs) : ∀ g ∈ gs, g < 65536 := by
  unfold embedded? at read
  split at read
  next a b c d bytes =>
    have small {n : Nat} (member : some n ∈ (splitOn '.' cs).map byte?) : n < 256 := by
      obtain ⟨part, _, byte⟩ := List.mem_map.1 member
      exact byte?_lt byte
    simp only [bytes, List.mem_cons, Option.some.injEq, List.not_mem_nil, or_false] at small
    have ha := small (.inl rfl)
    have hb := small (.inr (.inl rfl))
    have hc := small (.inr (.inr (.inl rfl)))
    have hd := small (.inr (.inr (.inr rfl)))
    obtain rfl := Option.some.inj read
    simp only [List.forall_mem_cons, List.not_mem_nil, false_implies, implies_true, and_true]
    omega
  next => cases read

theorem groups?_lt {atEnd : Bool} {parts : List (List Char)} {gs : List Nat} (read : groups? atEnd parts = some gs) :
    ∀ g ∈ gs, g < 65536 := by
  induction parts generalizing gs with
  | nil =>
    obtain rfl := Option.some.inj read
    exact nofun
  | cons part parts ih =>
    cases parts with
    | nil =>
      rw [groups?] at read
      split at read
      next n group =>
        obtain rfl := Option.some.inj read
        simpa using group?_lt group
      next =>
        rw [Option.ite_none_right_eq_some] at read
        exact embedded?_lt read.2
    | cons next parts =>
      rw [groups?] at read
      · split at read
        next n ns group rest =>
          obtain rfl := Option.some.inj read
          exact List.forall_mem_cons.2 ⟨group?_lt group, ih rest⟩
        next => cases read
      · simp

theorem side?_lt {atEnd : Bool} {cs : List Char} {gs : List Nat} (read : side? atEnd cs = some gs) :
    ∀ g ∈ gs, g < 65536 := by
  unfold side? at read
  split at read
  · obtain rfl := Option.some.inj read
    exact nofun
  · exact groups?_lt read

def IsAddress (gs : List Nat) : Prop := gs.length = 8 ∧ ∀ g ∈ gs, g < 65536

theorem isAddress_of_parse? {cs : List Char} {gs : List Nat} (read : parse? cs = some gs) : IsAddress gs := by
  unfold parse? at read
  split at read
  next =>
    split at read
    next gs' side =>
      rw [Option.ite_none_right_eq_some] at read
      obtain ⟨eight, same⟩ := read
      obtain rfl := Option.some.inj same
      exact ⟨eight, side?_lt side⟩
    next => cases read
  next before after _ =>
    split at read
    next front back sideBefore sideAfter =>
      rw [Option.ite_none_right_eq_some] at read
      obtain ⟨few, same⟩ := read
      obtain rfl := Option.some.inj same
      constructor
      · simp only [List.length_append, List.length_replicate]
        omega
      · intro g hg
        rcases List.mem_append.1 hg with hg | hg
        · rcases List.mem_append.1 hg with hg | hg
          · exact side?_lt sideBefore g hg
          · rw [(List.mem_replicate.1 hg).2]
            decide
        · exact side?_lt sideAfter g hg
    next => cases read

theorem group?_toDigits {n : Nat} (small : n < 65536) : group? (Nat.toDigits 16 n) = some n := by
  have short : (Nat.toDigits 16 n).length ≤ 4 := (Nat.length_toDigits_le_iff (by decide) (by decide)).2 small
  have some : 1 ≤ (Nat.toDigits 16 n).length := List.length_pos_iff.2 Nat.toDigits_ne_nil
  rw [group?, digits?_toDigits (by decide) (by decide), if_pos (by simp [short, some])]

theorem groups?_toDigits {gs : List Nat} (atEnd : Bool) (small : ∀ g ∈ gs, g < 65536) :
    groups? atEnd (gs.map (Nat.toDigits 16)) = some gs := by
  induction gs with
  | nil => rfl
  | cons g gs ih =>
    obtain ⟨here, others⟩ := List.forall_mem_cons.1 small
    cases gs with
    | nil => simp only [List.map_cons, List.map_nil, groups?, group?_toDigits here]
    | cons next gs =>
      rw [List.map_cons, groups?, group?_toDigits here, ih others]
      simp

theorem colon_not_mem_toDigits (n : Nat) : ':' ∉ Nat.toDigits 16 n :=
  fun colon => absurd (mem_toDigits (by decide) (by decide) colon) (by decide)

theorem joinGroups_cons_cons (g next : Nat) (gs : List Nat) :
    joinGroups (g :: next :: gs) = Nat.toDigits 16 g ++ ':' :: joinGroups (next :: gs) := by
  rw [joinGroups, List.map_cons, joinWith]
  · rfl
  · simp

theorem exists_joinGroups_cons (g : Nat) (gs : List Nat) :
    ∃ rest, joinGroups (g :: gs) = Nat.toDigits 16 g ++ rest := by
  cases gs with
  | nil => exact ⟨[], (List.append_nil _).symm⟩
  | cons next gs => exact ⟨_, joinGroups_cons_cons g next gs⟩

theorem side?_joinGroups {gs : List Nat} (atEnd : Bool) (small : ∀ g ∈ gs, g < 65536) :
    side? atEnd (joinGroups gs) = some gs := by
  cases gs with
  | nil => rfl
  | cons g gs =>
    have apart : ∀ part ∈ (g :: gs).map (Nat.toDigits 16), ':' ∉ part := by
      intro part hp
      obtain ⟨n, _, rfl⟩ := List.mem_map.1 hp
      exact colon_not_mem_toDigits n
    have split : splitOn ':' (joinGroups (g :: gs)) = (g :: gs).map (Nat.toDigits 16) :=
      splitOn_joinWith (by simp) apart
    have some : (joinGroups (g :: gs)).isEmpty = false := by
      obtain ⟨rest, same⟩ := exists_joinGroups_cons g gs
      simp [same, Nat.toDigits_ne_nil]
    rw [side?, some, split]
    exact groups?_toDigits atEnd small

theorem splitGap_cons {c : Char} {cs : List Char} (alone : c = ':' → cs.head? ≠ some ':') :
    splitGap (c :: cs) = (splitGap cs).map fun parts => (c :: parts.1, parts.2) := by
  rw [splitGap]
  rintro rest rfl rfl
  exact alone rfl rfl

theorem splitGap_append {part : List Char} (colonless : ':' ∉ part) (tail : List Char) :
    splitGap (part ++ tail) = (splitGap tail).map fun parts => (part ++ parts.1, parts.2) := by
  induction part with
  | nil => exact Option.map_id'.symm ▸ rfl
  | cons c part ih =>
    rw [List.mem_cons, not_or] at colonless
    rw [List.cons_append, splitGap_cons fun same => absurd same.symm colonless.1, ih colonless.2, Option.map_map]
    rfl

/-- No gap is among the groups that are written out. -/
theorem splitGap_joinGroups (gs : List Nat) (tail : List Char) :
    splitGap (joinGroups gs ++ tail) = (splitGap tail).map fun parts => (joinGroups gs ++ parts.1, parts.2) := by
  induction gs with
  | nil => exact Option.map_id'.symm ▸ rfl
  | cons g gs ih =>
    cases gs with
    | nil => exact splitGap_append (colon_not_mem_toDigits g) tail
    | cons next gs =>
      have alone : (joinGroups (next :: gs) ++ tail).head? ≠ some ':' := by
        obtain ⟨rest, same⟩ := exists_joinGroups_cons next gs
        rw [same, List.append_assoc, List.head?_append_of_ne_nil _ Nat.toDigits_ne_nil]
        exact fun first => colon_not_mem_toDigits next (List.mem_of_mem_head? first)
      rw [joinGroups_cons_cons, List.append_assoc, List.cons_append, splitGap_append (colon_not_mem_toDigits g),
        splitGap_cons fun _ => alone, ih, Option.map_map, Option.map_map]
      simp [Function.comp_def]

theorem zeros_in_place (gs : List Nat) (start : Nat) :
    gs.take start ++ List.replicate (zerosAt gs start) 0 ++ gs.drop (start + zerosAt gs start) = gs := by
  have zeros : (gs.drop start).takeWhile (· == 0) = List.replicate (zerosAt gs start) 0 :=
    List.eq_replicate_iff.2 ⟨rfl, fun n hn => by simpa using List.mem_takeWhile_imp hn⟩
  have whole := List.takeWhile_append_dropWhile (p := (· == 0)) (l := gs.drop start)
  have behind : gs.drop (start + zerosAt gs start) = (gs.drop start).dropWhile (· == 0) := by
    rw [← List.drop_drop]
    conv_lhs => rw [← whole]
    exact List.drop_left
  rw [behind, ← zeros, List.append_assoc, whole, List.take_append_drop]

theorem parse?_text {gs : List Nat} (address : IsAddress gs) : parse? (text gs) = some gs := by
  obtain ⟨eight, small⟩ := address
  simp only [text]
  -- Whichever run of zeros is left out, the gap stands for just as many.
  generalize longestRun gs = start
  have whole := zeros_in_place gs start
  split
  next =>
    have gapless : splitGap (joinGroups gs) = none := by
      have split := splitGap_joinGroups gs []
      rwa [List.append_nil] at split
    simp only [parse?, gapless, side?_joinGroups true small, eight, ↓reduceIte]
  next long =>
    have split : splitGap (joinGroups (gs.take start) ++ [':', ':'] ++ joinGroups (gs.drop (start + zerosAt gs start))) =
        some (joinGroups (gs.take start), joinGroups (gs.drop (start + zerosAt gs start))) := by
      rw [List.append_assoc, splitGap_joinGroups]
      simp [splitGap]
    have before : side? false (joinGroups (gs.take start)) = some (gs.take start) :=
      side?_joinGroups false fun g hg => small g (List.mem_of_mem_take hg)
    have after : side? true (joinGroups (gs.drop (start + zerosAt gs start))) = some (gs.drop (start + zerosAt gs start)) :=
      side?_joinGroups true fun g hg => small g (List.mem_of_mem_drop hg)
    have lengths := congrArg List.length whole
    simp only [List.length_append, List.length_replicate, eight] at lengths
    have gap : 8 - (gs.take start).length - (gs.drop (start + zerosAt gs start)).length = zerosAt gs start := by omega
    simp only [parse?, split, before, after, gap, whole]
    rw [if_pos (by omega)]

theorem mem_joinGroups {gs : List Nat} {c : Char} (hc : c ∈ joinGroups gs) : c = ':' ∨ c ∈ lowerHexDigits := by
  refine (mem_joinWith hc).imp_right ?_
  rintro ⟨part, hp, inside⟩
  obtain ⟨n, _, rfl⟩ := List.mem_map.1 hp
  exact mem_toDigits (by decide) (by decide) inside

theorem mem_text {gs : List Nat} {c : Char} (hc : c ∈ text gs) : c = ':' ∨ c ∈ lowerHexDigits := by
  simp only [text] at hc
  split at hc
  · exact mem_joinGroups hc
  · simp only [List.mem_append, List.mem_cons, List.not_mem_nil, or_false, or_self] at hc
    rcases hc with (before | colon) | after
    · exact mem_joinGroups before
    · exact .inl colon
    · exact mem_joinGroups after

end IPv6

end OriginRegistry.Host
