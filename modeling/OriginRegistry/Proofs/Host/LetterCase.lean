import OriginRegistry.Proofs.Host.NormalForm

/-!
# Hosts in capitals

A host is read alike in capitals and in small letters. Internet addresses have letters only among their hexadecimal
digits, and names are mapped to small letters. The letters of a percent-encoded byte are digits, too; but a capital
letter that is encoded is none of the text, so that what is decoded is the same only up to its own letters.
-/

set_option autoImplicit false

namespace OriginRegistry

def lowered (cs : List Char) : List Char := cs.map Char.toLower

theorem toLower_toLower (c : Char) : c.toLower.toLower = c.toLower := Text.apply_toLower (by decide) c

theorem lowered_lowered (cs : List Char) : lowered (lowered cs) = lowered cs := by
  simp only [lowered, List.map_map, Function.comp_def, toLower_toLower]

theorem toLower_cases (c : Char) : c.toLower = c ∨ c.isAlpha = true ∧ c.toLower.isAlpha = true := by
  by_cases ascii : c.toNat < 128
  · have found := Text.forall_ascii (p := fun c => c.toLower == c || (c.isAlpha && c.toLower.isAlpha)) (by decide) ascii
    simpa using found
  · exact .inl (Text.toLower_beyond (Nat.le_of_not_lt ascii))

theorem toLower_eq_iff (sign : Char) (other : sign.isAlpha = false) {c : Char} : c.toLower = sign ↔ c = sign := by
  rcases toLower_cases c with same | ⟨letter, small⟩
  · rw [same]
  · constructor <;> rintro rfl
    · rw [small] at other
      cases other
    · rw [letter] at other
      cases other

theorem hexDigit?_toLower (c : Char) : Text.hexDigit? c.toLower = Text.hexDigit? c := Text.apply_toLower (by decide) c

theorem toLower_of_isDigit {c : Char} (digit : c.isDigit = true) : c.toLower = c := by
  have apart : (!c.isDigit || c.toLower == c) = true := by
    by_cases ascii : c.toNat < 128
    · exact Text.forall_ascii (p := fun c => !c.isDigit || c.toLower == c) (by decide) ascii
    · simp [Text.toLower_beyond (Nat.le_of_not_lt ascii)]
  simpa [digit] using apart

theorem lowered_eq_nil_iff {cs : List Char} : lowered cs = [] ↔ cs = [] := List.map_eq_nil_iff

theorem splitOn_lowered {separator : Char} (other : separator.isAlpha = false) (cs : List Char) :
    Text.splitOn separator (lowered cs) = (Text.splitOn separator cs).map lowered := by
  induction cs with
  | nil => rfl
  | cons c cs ih =>
    have heads := toLower_eq_iff _ other (c := c)
    rw [lowered, List.map_cons, Text.splitOn, Text.splitOn]
    by_cases same : c = separator
    · rw [if_pos (heads.2 same), if_pos same, List.map_cons]
      exact congrArg ([] :: ·) ih
    · rw [if_neg (mt heads.1 same), if_neg same, show cs.map Char.toLower = lowered cs from rfl, ih]
      cases Text.splitOn separator cs <;> rfl

namespace Text

def Piece.lowered : Piece → Piece
  | .char c => .char c.toLower
  | .byte n => .byte n

def Reading.lowered : Reading → Reading
  | .char c => .char c.toLower
  | .broken size cut => .broken size cut

theorem pieces_lowered (cs : List Char) : pieces (OriginRegistry.lowered cs) = (pieces cs).map Piece.lowered := by
  have percent : '%'.toLower = '%' := rfl
  fun_induction pieces cs with
  | case1 => rfl
  | case2 a b cs high low first second ih =>
    simp only [OriginRegistry.lowered, List.map_cons, percent, pieces, hexDigit?_toLower, first, second] at ih ⊢
    rw [ih]
    rfl
  | case3 a b cs none ih =>
    simp only [OriginRegistry.lowered, List.map_cons, percent] at ih ⊢
    rw [pieces, hexDigit?_toLower, hexDigit?_toLower]
    split
    next high low first second => exact absurd second (none high low first)
    next =>
      rw [ih]
      rfl
  | case4 c cs plain ih =>
    rw [OriginRegistry.lowered, List.map_cons, pieces]
    · exact congrArg (.char c.toLower :: ·) ih
    · intro a b rest same behind
      obtain ⟨_, more, rfl, _, behind⟩ := List.map_eq_cons_iff.1 behind
      obtain ⟨_, _, rfl, _, _⟩ := List.map_eq_cons_iff.1 behind
      exact plain _ _ _ ((toLower_eq_iff _ rfl).1 same) rfl

/-- Characters that are written out end a sequence of bytes, whatever their case. -/
theorem readings_lowered (begun : Option Begun) (ps : List Piece) :
    (readings begun (ps.map Piece.lowered)).map Reading.lowered = (readings begun ps).map Reading.lowered := by
  have again (c : Char) : Reading.lowered (.char c.toLower) = .lowered (.char c) :=
    congrArg Reading.char (toLower_toLower c)
  induction ps generalizing begun with
  | nil => rfl
  | cons p ps ih =>
    cases p with
    | char c =>
      cases begun <;> simp only [List.map_cons, Piece.lowered, readings, ih, again]
    | byte n =>
      cases begun with
      | none =>
        simp only [List.map_cons, Piece.lowered, readings]
        split <;> simp only [List.map_cons, ih]
      | some b =>
        simp only [List.map_cons, Piece.lowered, readings]
        split
        · split <;> simp only [List.map_cons, ih]
        · split <;> simp only [List.map_cons, ih]

theorem allCharacters_lowered (index index' : Nat) (rs : List Reading) :
    (allCharacters index (rs.map Reading.lowered)).toOption =
      (allCharacters index' rs).toOption.map OriginRegistry.lowered := by
  induction rs generalizing index index' with
  | nil => rfl
  | cons r rs ih =>
    cases r with
    | broken size cut => rfl
    | char c =>
      have tails := ih (index + c.toLower.utf8Size) (index' + c.utf8Size)
      simp only [List.map_cons, Reading.lowered, allCharacters]
      cases left : allCharacters (index + c.toLower.utf8Size) (rs.map Reading.lowered) <;>
        cases right : allCharacters (index' + c.utf8Size) rs <;> rw [left, right] at tails
      · rfl
      · cases tails
      · cases tails
      · exact congrArg (Option.map (c.toLower :: ·)) tails

/-- Decoding keeps the case of what is encoded, so that small letters decode to the same text up to its case. -/
theorem percentDecode_lowered (cs : List Char) :
    (percentDecode (OriginRegistry.lowered cs)).toOption.map OriginRegistry.lowered =
      (percentDecode cs).toOption.map OriginRegistry.lowered := by
  simp only [percentDecode]
  -- Both sides are what the readings hold once their own letters are small.
  rw [← allCharacters_lowered 0 0, ← allCharacters_lowered 0 0, pieces_lowered, readings_lowered]

end Text

namespace Host

namespace IPv4

theorem digits?_lowered (base sum : Nat) (cs : List Char) : digits? base sum (lowered cs) = digits? base sum cs := by
  induction cs generalizing sum with
  | nil => rfl
  | cons c cs ih =>
    simp only [lowered, List.map_cons, digits?, digit?, hexDigit?_toLower] at ih ⊢
    simp only [ih]

end IPv4

namespace IPv6

theorem group?_lowered (cs : List Char) : group? (lowered cs) = group? cs := by
  rw [group?, IPv4.digits?_lowered, lowered, List.length_map]
  rfl

theorem byte?_cons_of_ne {c : Char} (nonzero : c ≠ '0') (cs : List Char) :
    byte? (c :: cs) = (IPv4.digits? 10 0 (c :: cs)).bind fun n => if n < 256 then some n else none := by
  rw [byte?]
  · cases IPv4.digits? 10 0 (c :: cs) <;> rfl
  all_goals simp [nonzero]

theorem byte?_lowered (cs : List Char) : byte? (lowered cs) = byte? cs := by
  cases cs with
  | nil => rfl
  | cons c cs =>
    by_cases zero : c = '0'
    · subst zero
      cases cs <;> rfl
    · have nonzero : c.toLower ≠ '0' := mt (toLower_eq_iff _ rfl).1 zero
      have digits := IPv4.digits?_lowered 10 0 (c :: cs)
      rw [lowered, List.map_cons] at digits ⊢
      rw [byte?_cons_of_ne nonzero, byte?_cons_of_ne zero, digits]

theorem embedded?_lowered (cs : List Char) : embedded? (lowered cs) = embedded? cs := by
  rw [embedded?, embedded?, splitOn_lowered rfl, List.map_map]
  simp only [Function.comp_def, byte?_lowered]

theorem groups?_lowered (atEnd : Bool) (parts : List (List Char)) :
    groups? atEnd (parts.map lowered) = groups? atEnd parts := by
  induction parts with
  | nil => rfl
  | cons part parts ih =>
    cases parts with
    | nil => simp only [List.map_cons, List.map_nil, groups?, group?_lowered, embedded?_lowered]
    | cons next parts =>
      simp only [List.map_cons, groups?, group?_lowered] at ih ⊢
      rw [ih]

theorem side?_lowered (atEnd : Bool) (cs : List Char) : side? atEnd (lowered cs) = side? atEnd cs := by
  rw [side?, side?, splitOn_lowered rfl, groups?_lowered, lowered, List.isEmpty_map]

theorem splitGap_lowered (cs : List Char) :
    splitGap (lowered cs) = (splitGap cs).map fun parts => (lowered parts.1, lowered parts.2) := by
  fun_induction splitGap cs with
  | case1 cs => rfl
  | case2 c cs alone ih =>
    rw [lowered, List.map_cons, splitGap]
    · rw [show cs.map Char.toLower = lowered cs from rfl, ih, Option.map_map, Option.map_map]
      rfl
    · intro rest same behind
      obtain ⟨_, more, rfl, colon, _⟩ := List.map_eq_cons_iff.1 behind
      obtain rfl := (toLower_eq_iff _ rfl).1 colon
      exact alone _ ((toLower_eq_iff _ rfl).1 same) rfl
  | case3 => rfl

theorem parse?_lowered (cs : List Char) : parse? (lowered cs) = parse? cs := by
  rw [parse?, parse?, splitGap_lowered, side?_lowered]
  cases splitGap cs with
  | none => rfl
  | some parts => simp only [Option.map_some, side?_lowered]

end IPv6

namespace Domain

theorem mapChar_toLower (c : Char) : mapChar c.toLower = mapChar c := Text.apply_toLower (by decide) c

theorem mapAll_lowered (cs : List Char) : mapAll (lowered cs) = mapAll cs := by
  induction cs with
  | nil => rfl
  | cons c cs ih => simp only [lowered, List.map_cons, mapAll, mapChar_toLower] at ih ⊢; rw [ih]

theorem toAscii_lowered (cs : List Char) : toAscii (lowered cs) = toAscii cs := by
  rw [toAscii, toAscii, mapped, mapAll_lowered]
  rfl

end Domain

theorem bracketed_lowered (cs : List Char) : bracketed (lowered cs) = bracketed cs := by
  have closed : ((lowered cs).getLast? == some ']') = (cs.getLast? == some ']') := by
    rw [lowered, List.getLast?_map, Bool.eq_iff_iff, beq_iff_eq, beq_iff_eq, Option.map_eq_some_iff]
    simp only [toLower_eq_iff ']' rfl, exists_eq_right]
  have inside : ((lowered cs).drop 1).dropLast = lowered (cs.drop 1).dropLast := by
    rw [lowered, ← List.map_drop, ← List.map_dropLast, lowered]
  rw [bracketed, bracketed, closed, inside, IPv6.parse?_lowered]

theorem named_lowered (cs : List Char) : named (lowered cs) = named cs := by
  have decoded (cs : List Char) : (Text.percentDecode cs).toOption.bind Domain.toAscii =
      ((Text.percentDecode cs).toOption.map lowered).bind Domain.toAscii := by
    rw [Option.bind_map]
    exact congrArg _ (funext fun name => (Domain.toAscii_lowered name).symm)
  rw [named, named, decoded (lowered cs), decoded cs, Text.percentDecode_lowered]

theorem parse_lowered (cs : List Char) : parse (lowered cs) = parse cs := by
  by_cases bracket : cs.head? = some '['
  · obtain ⟨rest, rfl⟩ := List.head?_eq_some_iff.1 bracket
    exact bracketed_lowered ('[' :: rest)
  · have unbracketed : (lowered cs).head? ≠ some '[' := by
      rw [lowered, List.head?_map, ne_eq, Option.map_eq_some_iff]
      rintro ⟨c, first, same⟩
      exact bracket (first.trans (congrArg some ((toLower_eq_iff _ rfl).1 same)))
    rw [parse_named unbracketed, parse_named bracket, named_lowered]

end Host

end OriginRegistry
