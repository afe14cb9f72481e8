import OriginRegistry.Proofs.Json.Scalars

set_option autoImplicit false

namespace OriginRegistry.Json

def Starts (cs : List Char) : Prop := ∃ c tail, cs = c :: tail ∧ isBlank c = false ∧ c ≠ ']'

/-- What was written of `x` is read back, whatever may follow it. -/
structure ReadsBack {α : Type} (item : Reader α) (write : α → List Char) (x : α) : Prop where
  starts : Starts (write x)
  back : ∀ rest, Stops rest → item (write x ++ rest) = .ok (x, rest)

theorem skipBlanks_cons {c : Char} (printed : isBlank c = false) (cs : List Char) : skipBlanks (c :: cs) = c :: cs := by
  simp [skipBlanks, printed]

theorem stops_comma (rest : List Char) : Stops (',' :: rest) := by
  rintro _ ⟨⟩
  exact .inl rfl

theorem stops_bracket (rest : List Char) : Stops (']' :: rest) := by
  rintro _ ⟨⟩
  exact .inr (.inl rfl)

theorem stops_brace (rest : List Char) : Stops ('\x7d' :: rest) := by
  rintro _ ⟨⟩
  exact .inr (.inr rfl)

section Items

variable {α : Type} {write : α → List Char}

def laterItems (write : α → List Char) (xs : List α) : List Char := xs.flatMap fun x => ',' :: write x

def separated (write : α → List Char) : List α → List Char
  | [] => []
  | x :: xs => write x ++ laterItems write xs

theorem length_le_laterItems (write : α → List Char) (xs : List α) : xs.length ≤ (laterItems write xs).length := by
  induction xs with
  | nil => exact Nat.zero_le _
  | cons x xs ih =>
    simp only [laterItems, List.flatMap_cons, List.length_append, List.length_cons] at ih ⊢
    omega

theorem length_le_separated (write : α → List Char) (xs : List α) : xs.length ≤ (separated write xs).length + 1 := by
  cases xs with
  | nil => exact Nat.zero_le _
  | cons x xs =>
    have others := length_le_laterItems write xs
    simp only [separated, List.length_append, List.length_cons]
    omega

theorem stops_laterItems {closing : Char} (closes : ∀ rest, Stops (closing :: rest)) (xs : List α) (rest : List Char) :
    Stops (laterItems write xs ++ closing :: rest) := by
  cases xs with
  | nil => exact closes rest
  | cons x xs => exact stops_comma _

end Items

section Arrays

variable {α : Type} {item : Reader α} {write : α → List Char}

theorem nextItem?_later {cs : List Char} (starts : Starts cs) (rest : List Char) :
    nextItem? false (',' :: (cs ++ rest)) = .ok (some (cs ++ rest)) := by
  obtain ⟨c, tail, rfl, printed, open'⟩ := starts
  have comma : isBlank ',' = false := rfl
  simp [nextItem?, skipBlanks_cons comma, skipBlanks_cons printed, open']

theorem nextItem?_first {cs : List Char} (starts : Starts cs) (rest : List Char) :
    nextItem? true (cs ++ rest) = .ok (some (cs ++ rest)) := by
  obtain ⟨c, tail, rfl, printed, open'⟩ := starts
  simp [nextItem?, skipBlanks_cons printed]

theorem readItems_end (fuel : Nat) (first : Bool) (rest : List Char) :
    readItems item (fuel + 1) first (']' :: rest) = .ok ([], rest) := by
  have bracket : isBlank ']' = false := rfl
  simp [readItems, nextItem?, closeArray, skipBlanks_cons bracket, Except.map]

theorem readItems_later {xs : List α} (each : ∀ x ∈ xs, ReadsBack item write x) {fuel : Nat}
    (enough : xs.length < fuel) (rest : List Char) :
    readItems item fuel false (laterItems write xs ++ ']' :: rest) = .ok (xs, rest) := by
  induction xs generalizing fuel with
  | nil =>
    cases fuel with
    | zero => cases enough
    | succ fuel => exact readItems_end fuel false rest
  | cons x xs ih =>
    cases fuel with
    | zero => cases enough
    | succ fuel =>
      have here := each x List.mem_cons_self
      have others := ih (fun y hy => each y (List.mem_cons_of_mem x hy)) (Nat.lt_of_succ_lt_succ enough)
      have split : laterItems write (x :: xs) ++ ']' :: rest =
          ',' :: (write x ++ (laterItems write xs ++ ']' :: rest)) := by
        simp [laterItems]
      rw [split, readItems, nextItem?_later here.starts]
      simp only [here.back _ (stops_laterItems stops_bracket xs rest), others]

theorem readItems_separated {xs : List α} (each : ∀ x ∈ xs, ReadsBack item write x) {fuel : Nat}
    (enough : xs.length < fuel) (rest : List Char) :
    readItems item fuel true (separated write xs ++ ']' :: rest) = .ok (xs, rest) := by
  cases fuel with
  | zero => cases enough
  | succ fuel =>
    cases xs with
    | nil => exact readItems_end fuel true rest
    | cons x xs =>
      have here := each x List.mem_cons_self
      have others := readItems_later (fun y hy => each y (List.mem_cons_of_mem x hy)) (Nat.lt_of_succ_lt_succ enough) rest
      rw [separated, List.append_assoc, readItems, nextItem?_first here.starts]
      simp only [here.back _ (stops_laterItems stops_bracket xs rest), others]

end Arrays

section Objects

variable {α : Type} {value : Reader α} {write : α → List Char}

def memberText (write : α → List Char) (m : String × α) : List Char := quote m.1.toList ++ ':' :: write m.2

theorem memberText_append (m : String × α) (rest : List Char) :
    memberText write m ++ rest = '"' :: (m.1.toList.flatMap escape ++ '"' :: ':' :: (write m.2 ++ rest)) := by
  simp [memberText, quote]

theorem readMembers_end (fuel : Nat) (first : Bool) (rest : List Char) :
    readMembers value (fuel + 1) first ('\x7d' :: rest) = .ok ([], rest) := by
  have brace : isBlank '\x7d' = false := rfl
  simp [readMembers, nextName?, closeObject, skipBlanks_cons brace, Except.map]

theorem nextName?_later (rest : List Char) : nextName? false (',' :: '"' :: rest) = .ok (some rest) := by
  have comma : isBlank ',' = false := rfl
  have quote : isBlank '"' = false := rfl
  simp [nextName?, skipBlanks_cons comma, skipBlanks_cons quote]

theorem nextName?_first (rest : List Char) : nextName? true ('"' :: rest) = .ok (some rest) := by
  have quote : isBlank '"' = false := rfl
  simp [nextName?, skipBlanks_cons quote]

theorem readColon_colon (rest : List Char) : readColon (':' :: rest) = .ok rest := by
  have colon : isBlank ':' = false := rfl
  simp [readColon, skipBlanks_cons colon]

theorem readMembers_later {members : List (String × α)} (each : ∀ m ∈ members, ReadsBack value write m.2) {fuel : Nat}
    (enough : members.length < fuel) (rest : List Char) :
    readMembers value fuel false (laterItems (memberText write) members ++ '\x7d' :: rest) = .ok (members, rest) := by
  induction members generalizing fuel with
  | nil =>
    cases fuel with
    | zero => cases enough
    | succ fuel => exact readMembers_end fuel false rest
  | cons m members ih =>
    cases fuel with
    | zero => cases enough
    | succ fuel =>
      have here := each m List.mem_cons_self
      have others := ih (fun n hn => each n (List.mem_cons_of_mem m hn)) (Nat.lt_of_succ_lt_succ enough)
      have split : laterItems (memberText write) (m :: members) ++ '\x7d' :: rest =
          ',' :: (memberText write m ++ (laterItems (memberText write) members ++ '\x7d' :: rest)) := by
        simp [laterItems]
      rw [split, memberText_append, readMembers, nextName?_later]
      simp only [readText_append, ok_bind, readColon_colon,
        here.back _ (stops_laterItems stops_brace members rest), others]

theorem readMembers_separated {members : List (String × α)} (each : ∀ m ∈ members, ReadsBack value write m.2)
    {fuel : Nat} (enough : members.length < fuel) (rest : List Char) :
    readMembers value fuel true (separated (memberText write) members ++ '\x7d' :: rest) = .ok (members, rest) := by
  cases fuel with
  | zero => cases enough
  | succ fuel =>
    cases members with
    | nil => exact readMembers_end fuel true rest
    | cons m members =>
      have here := each m List.mem_cons_self
      have others := readMembers_later (fun n hn => each n (List.mem_cons_of_mem m hn)) (Nat.lt_of_succ_lt_succ enough)
        rest
      rw [separated, List.append_assoc, memberText_append, readMembers, nextName?_first]
      simp only [readText_append, ok_bind, readColon_colon,
        here.back _ (stops_laterItems stops_brace members rest), others]

end Objects

theorem itemChars_eq (items : List Json) : itemChars items = laterItems chars items ++ [']'] := by
  induction items with
  | nil => rfl
  | cons v items ih => simp [itemChars, laterItems, ih]

theorem memberChars_eq (members : List (String × Json)) :
    memberChars members = laterItems (memberText chars) members ++ ['\x7d'] := by
  induction members with
  | nil => rfl
  | cons m members ih => simp [memberChars, laterItems, memberText, ih]

theorem chars_array (items : List Json) : chars (.array items) = '[' :: (separated chars items ++ [']']) := by
  cases items with
  | nil => simp [chars, separated]
  | cons v items => simp [chars, separated, itemChars_eq]

theorem chars_object (members : List (String × Json)) :
    chars (.object members) = '\x7b' :: (separated (memberText chars) members ++ ['\x7d']) := by
  cases members with
  | nil => simp [chars, separated]
  | cons m members => simp [chars, separated, memberText, memberChars_eq]

/-- Values without broken numbers, with whole numbers that fit in 64 bits and so many brackets inside each other. -/
inductive Plain : Nat → Json → Prop
  | scalar {depth : Nat} {v : Json} (scalar : IsScalar v) : Plain depth v
  | array {depth : Nat} {items : List Json} (each : ∀ v ∈ items, Plain depth v) : Plain (depth + 1) (.array items)
  | object {depth : Nat} {members : List (String × Json)} (each : ∀ m ∈ members, Plain depth m.2) :
      Plain (depth + 1) (.object members)

theorem not_blank_of_isDigit {c : Char} (digit : Text.isDigit c = true) : isBlank c = false := by
  simp only [isBlank, Bool.or_eq_false_iff, decide_eq_false_iff_not]
  refine ⟨⟨⟨?_, ?_⟩, ?_⟩, ?_⟩
  all_goals
    rintro rfl
    cases digit

/-- A scalar is told from an array and from an object by its first character. -/
theorem scalar_chars {v : Json} (scalar : IsScalar v) :
    ∃ c tail, chars v = c :: tail ∧ isBlank c = false ∧ c ≠ '[' ∧ c ≠ ']' ∧ c ≠ '{' := by
  cases v with
  | null => exact ⟨'n', _, rfl, by decide⟩
  | boolean value => cases value <;> exact ⟨_, _, rfl, by decide⟩
  | integer n =>
    rw [chars, integerChars]
    split
    next => exact ⟨'-', _, rfl, by decide⟩
    next =>
      cases digits : Nat.toDigits 10 n.natAbs with
      | nil => exact absurd digits Nat.toDigits_ne_nil
      | cons c tail =>
        have here : Text.isDigit c = true := Text.isDigit_of_mem_toDigits (digits ▸ List.mem_cons_self)
        refine ⟨c, tail, rfl, not_blank_of_isDigit here, ?_, ?_, ?_⟩
        all_goals
          rintro rfl
          cases here
  | text value => exact ⟨'"', _, rfl, by decide⟩
  | real value => cases scalar
  | array items => cases scalar
  | object members => cases scalar

theorem readValue_scalar (depth : Nat) {v : Json} (scalar : IsScalar v) : ReadsBack (readValue depth) chars v := by
  obtain ⟨c, tail, written, printed, noArray, noEnd, noObject⟩ := scalar_chars scalar
  refine ⟨⟨c, tail, written, printed, noEnd⟩, fun rest stops => ?_⟩
  have read := readScalar_append scalar stops
  rw [written, List.cons_append] at read ⊢
  cases depth <;> simp [readValue, skipBlanks_cons printed, noArray, noObject, read]

theorem readValue_chars {depth : Nat} {v : Json} (plain : Plain depth v) : ReadsBack (readValue depth) chars v := by
  induction plain with
  | scalar scalar => exact readValue_scalar _ scalar
  | @array depth items _ each =>
    have bracket : isBlank '[' = false := rfl
    refine ⟨⟨'[', _, chars_array items, bracket, by decide⟩, fun rest _ => ?_⟩
    have enough : items.length < (separated chars items ++ ']' :: rest).length + 1 := by
      have some := length_le_separated chars items
      rw [List.length_append, List.length_cons]
      omega
    have read := readItems_separated each enough rest
    rw [chars_array, List.cons_append, List.append_assoc, List.cons_append, List.nil_append, readValue,
      skipBlanks_cons bracket]
    simp only [read]
    rfl
  | @object depth members _ each =>
    have brace : isBlank '\x7b' = false := rfl
    refine ⟨⟨'\x7b', _, chars_object members, brace, by decide⟩, fun rest _ => ?_⟩
    have enough : members.length < (separated (memberText chars) members ++ '\x7d' :: rest).length + 1 := by
      have some := length_le_separated (memberText chars) members
      rw [List.length_append, List.length_cons]
      omega
    have read := readMembers_separated each enough rest
    rw [chars_object, List.cons_append, List.append_assoc, List.cons_append, List.nil_append, readValue,
      skipBlanks_cons brace]
    simp only [read]
    rfl

/-- A text that was printed is parsed to what it was printed from. -/
theorem parse_print {v : Json} (plain : Plain depthLimit v) : parse v.print = .ok v := by
  have read := (readValue_chars plain).back [] Stops.nil
  rw [List.append_nil] at read
  simp only [parse, readWhole, print, String.toList_ofList, read]
  rfl

end OriginRegistry.Json
