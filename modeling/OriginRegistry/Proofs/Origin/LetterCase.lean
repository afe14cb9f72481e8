import OriginRegistry.Proofs.Host.LetterCase
import OriginRegistry.Proofs.Origin.Spelling

set_option autoImplicit false

namespace OriginRegistry

theorem isBlank_toLower (c : Char) : Text.isBlank c.toLower = Text.isBlank c := Text.apply_toLower (by decide) c

theorem forall_mem_lowered {p : Char → Bool} {value : Bool} (same : ∀ c : Char, p c.toLower = p c) {cs : List Char} :
    (∀ c ∈ lowered cs, p c = value) ↔ ∀ c ∈ cs, p c = value := by
  simp only [lowered, List.forall_mem_map, same]

theorem mem_lowered_iff {sign : Char} (other : sign.isAlpha = false) {cs : List Char} : sign ∈ lowered cs ↔ sign ∈ cs := by
  simp only [lowered, List.mem_map, toLower_eq_iff _ other, exists_eq_right]

theorem trimEnds_lowered {p : Char → Bool} (same : ∀ c : Char, p c.toLower = p c) (cs : List Char) :
    Text.trimEnds p (lowered cs) = lowered (Text.trimEnds p cs) := by
  have composed : p ∘ Char.toLower = p := funext same
  simp only [Text.trimEnds, lowered, List.dropWhile_map, composed, ← List.map_reverse]

namespace Address

theorem isPadding_toLower (c : Char) : isPadding c.toLower = isPadding c := Text.apply_toLower (by decide) c

theorem isSchemeChar_toLower (c : Char) : isSchemeChar c.toLower = isSchemeChar c := Text.apply_toLower (by decide) c

theorem isAlpha_toLower (c : Char) : c.toLower.isAlpha = c.isAlpha := Text.apply_toLower (by decide) c

theorem isDigit_toLower (c : Char) : c.toLower.isDigit = c.isDigit := Text.apply_toLower (by decide) c

theorem isSlash_toLower (c : Char) : isSlash true c.toLower = isSlash true c :=
  Text.apply_toLower (f := isSlash true) (by decide) c

theorem endsAuthority_toLower (c : Char) : endsAuthority true c.toLower = endsAuthority true c :=
  Text.apply_toLower (f := endsAuthority true) (by decide) c

theorem isSchemeName_lowered_iff {cs : List Char} : IsSchemeName (lowered cs) ↔ IsSchemeName cs := by
  refine and_congr ?_ (forall_mem_lowered isSchemeChar_toLower)
  cases cs with
  | nil => exact Iff.rfl
  | cons c cs =>
    simp only [lowered, List.map_cons, List.head?_cons, Option.mem_def, Option.some.injEq, exists_eq_left',
      isAlpha_toLower]

theorem splitHost_lowered (enclosed : Bool) (cs : List Char) :
    splitHost enclosed (lowered cs) = (lowered (splitHost enclosed cs).1, lowered (splitHost enclosed cs).2) := by
  induction cs generalizing enclosed with
  | nil => rfl
  | cons c cs ih =>
    have colon := toLower_eq_iff ':' rfl (c := c)
    have opening := toLower_eq_iff '[' rfl (c := c)
    have closing := toLower_eq_iff ']' rfl (c := c)
    simp only [lowered, List.map_cons, splitHost, colon, opening, closing] at ih ⊢
    split
    · rfl
    · rw [ih]
      rfl

theorem slashed_lowered (cs : List Char) : slashed true (lowered cs) = lowered (slashed true cs) := by
  simp only [slashed, lowered, List.map_map]
  refine List.map_congr_left fun c _ => ?_
  simp only [Function.comp_apply, isSlash_toLower]
  split <;> rfl

theorem isDot_lowered (segment : List Char) : isDot (lowered segment) = isDot segment := by
  have again := lowered_lowered segment
  simp only [lowered] at again
  simp only [isDot, lowered, again]

theorem isDotDot_lowered (segment : List Char) : isDotDot (lowered segment) = isDotDot segment := by
  have again := lowered_lowered segment
  simp only [lowered] at again
  simp only [isDotDot, lowered, again]

theorem followDots_lowered (before segments : List (List Char)) :
    followDots (before.map lowered) (segments.map lowered) = (followDots before segments).map lowered := by
  have empty : lowered [] = [] := rfl
  fun_induction followDots before segments <;>
    simp_all [followDots, isDot_lowered, isDotDot_lowered]

theorem segments_lowered (path : List Char) : segments true (lowered path) = (segments true path).map lowered := by
  unfold segments
  rw [slashed_lowered]
  cases slashed true path with
  | nil => rfl
  | cons c cs =>
    have followed (cs : List Char) :
        followDots [] (Text.splitOn '/' (lowered cs)) = (followDots [] (Text.splitOn '/' cs)).map lowered := by
      rw [splitOn_lowered rfl]
      exact followDots_lowered [] _
    by_cases slash : c = '/'
    · subst slash
      exact followed cs
    · have inner : c.toLower ≠ '/' := mt (toLower_eq_iff _ rfl).1 slash
      have whole := followed (c :: cs)
      rw [lowered, List.map_cons] at whole ⊢
      split
      next => contradiction
      next same => exact absurd (List.cons.inj same).1 inner
      next =>
        split
        next => contradiction
        next same => exact absurd (List.cons.inj same).1 slash
        next => exact whole

theorem segments_lowered_eq_root_iff {path : List Char} :
    segments true (lowered path) = [[]] ↔ segments true path = [[]] := by
  rw [segments_lowered, List.map_eq_singleton_iff]
  simp only [lowered_eq_nil_iff, exists_eq_right]

theorem isRoot_lowered_iff {path : List Char} : IsRoot (lowered path) ↔ IsRoot path := by
  have starts : (∀ c ∈ (lowered path).head?, isSlash true c = true) ↔ ∀ c ∈ path.head?, isSlash true c = true := by
    cases path with
    | nil => exact Iff.rfl
    | cons c path => simp [lowered, isSlash_toLower]
  have plain : (∀ c ∈ lowered path, c ≠ '?' ∧ c ≠ '#') ↔ ∀ c ∈ path, c ≠ '?' ∧ c ≠ '#' := by
    simp only [lowered, List.forall_mem_map, ne_eq, toLower_eq_iff '?' rfl, toLower_eq_iff '#' rfl]
  exact ⟨fun h => ⟨starts.1 h.starts, plain.1 h.plain, segments_lowered_eq_root_iff.1 h.segments⟩,
    fun h => ⟨starts.2 h.starts, plain.2 h.plain, segments_lowered_eq_root_iff.2 h.segments⟩⟩

theorem lowered_of_digits {cs : List Char} (digits : ∀ c ∈ cs, c.isDigit = true) : lowered cs = cs :=
  (List.map_congr_left fun c hc => toLower_of_isDigit (digits c hc)).trans (List.map_id' cs)

variable {credentials name colon : List Char} {host : Host}

theorem mem_emptyCredentials_lowered_iff : lowered credentials ∈ emptyCredentials ↔ credentials ∈ emptyCredentials := by
  have nobody : lowered credentials = ['@'] ↔ credentials = ['@'] := by
    simp only [lowered, List.map_eq_singleton_iff, toLower_eq_iff '@' rfl, exists_eq_right]
  have colon : lowered credentials = [':', '@'] ↔ credentials = [':', '@'] := by
    simp [lowered, List.map_eq_cons_iff, toLower_eq_iff '@' rfl, toLower_eq_iff ':' rfl]
  simp only [emptyCredentials, List.mem_cons, List.not_mem_nil, or_false, lowered_eq_nil_iff, nobody, colon]

theorem splitHost_lowered_eq_iff :
    splitHost false (lowered name ++ lowered colon) = (lowered name, lowered colon) ↔
      splitHost false (name ++ colon) = (name, colon) := by
  have joined : lowered name ++ lowered colon = lowered (name ++ colon) := List.map_append.symm
  rw [joined, splitHost_lowered]
  constructor
  · intro same
    have lengths := congrArg (List.length ∘ Prod.fst) same
    simp only [Function.comp_apply, lowered, List.length_map] at lengths
    obtain ⟨first, second⟩ := List.append_inj (splitHost_append false (name ++ colon)) lengths
    exact Prod.ext first second
  · intro same
    rw [same]

theorem isAuthority_lowered_iff :
    IsAuthority (lowered credentials) (lowered name) (lowered colon) host ↔ IsAuthority credentials name colon host := by
  have joined : lowered name ++ lowered colon = lowered (name ++ colon) := List.map_append.symm
  have behind : (lowered colon).drop 1 = lowered (colon.drop 1) := List.map_drop.symm
  have digits : (∀ c ∈ (lowered colon).drop 1, c.isDigit = true) ↔ ∀ c ∈ colon.drop 1, c.isDigit = true := by
    rw [behind]
    exact forall_mem_lowered isDigit_toLower
  have unmarked : '@' ∉ lowered name ++ lowered colon ↔ '@' ∉ name ++ colon := by
    rw [joined, mem_lowered_iff rfl]
  have inside : (∀ c ∈ lowered name ++ lowered colon, endsAuthority true c = false) ↔
      ∀ c ∈ name ++ colon, endsAuthority true c = false := by
    rw [joined]
    exact forall_mem_lowered endsAuthority_toLower
  have value (decimal : ∀ c ∈ colon.drop 1, c.isDigit = true) : (lowered colon).drop 1 = colon.drop 1 :=
    behind.trans (lowered_of_digits decimal)
  constructor
  · intro h
    have decimal := digits.1 h.digits
    exact ⟨mem_emptyCredentials_lowered_iff.1 h.credentials, inside.1 h.inside, unmarked.1 h.unmarked,
      splitHost_lowered_eq_iff.1 h.split, (Host.parse_lowered name).symm.trans h.host, decimal,
      value decimal ▸ h.small⟩
  · intro h
    exact ⟨mem_emptyCredentials_lowered_iff.2 h.credentials, inside.2 h.inside, unmarked.2 h.unmarked,
      splitHost_lowered_eq_iff.2 h.split, (Host.parse_lowered name).trans h.host, digits.2 h.digits,
      (value h.digits).symm ▸ h.small⟩

end Address

namespace Spelling

open Address

def lower (s : Spelling) : Spelling :=
  { before := lowered s.before, scheme := lowered s.scheme, slashes := lowered s.slashes
    credentials := lowered s.credentials, host := lowered s.host, port := lowered s.port, path := lowered s.path
    after := lowered s.after }

variable {s s' : Spelling} {scheme : Scheme} {host : Host}

theorem core_lower (s : Spelling) : s.lower.core = lowered s.core := by
  have colon : ':'.toLower = ':' := rfl
  simp only [core, rest, lower, lowered, List.map_append, List.map_cons, colon]

theorem text_lower (s : Spelling) : s.lower.text = lowered s.text := by
  rw [text, core_lower]
  simp only [text, lower, lowered, List.map_append]

theorem reads_lower_iff : s.lower.Reads scheme host ↔ s.Reads scheme host := by
  have unblank : (∀ c ∈ s.lower.text, Text.isBlank c = false) ↔ ∀ c ∈ s.text, Text.isBlank c = false := by
    rw [text_lower]
    exact forall_mem_lowered isBlank_toLower
  have ends : (∀ c ∈ s.lower.core.getLast?, isPadding c = false) ↔ ∀ c ∈ s.core.getLast?, isPadding c = false := by
    rw [core_lower, lowered, List.getLast?_map]
    simp [isPadding_toLower]
  have known : s.lower.scheme.map Char.toLower = s.scheme.map Char.toLower := lowered_lowered s.scheme
  constructor
  · intro h
    exact
      { unblank := unblank.1 h.unblank
        before := (forall_mem_lowered isPadding_toLower).1 h.before
        after := (forall_mem_lowered isPadding_toLower).1 h.after
        ends := ends.1 h.ends
        name := isSchemeName_lowered_iff.1 h.name
        known := known ▸ h.known
        web := h.web
        slashes := (forall_mem_lowered isSlash_toLower).1 h.slashes
        authority := isAuthority_lowered_iff.1 h.authority
        root := isRoot_lowered_iff.1 h.root }
  · intro h
    exact
      { unblank := unblank.2 h.unblank
        before := (forall_mem_lowered isPadding_toLower).2 h.before
        after := (forall_mem_lowered isPadding_toLower).2 h.after
        ends := ends.2 h.ends
        name := isSchemeName_lowered_iff.2 h.name
        known := known.symm ▸ h.known
        web := h.web
        slashes := (forall_mem_lowered isSlash_toLower).2 h.slashes
        authority := isAuthority_lowered_iff.2 h.authority
        root := isRoot_lowered_iff.2 h.root }

/-- A text with the letters of a spelling falls into the parts of the spelling. -/
theorem exists_recased {cs : List Char} (same : lowered cs = lowered s.text) :
    ∃ s' : Spelling, s'.text = cs ∧ s'.lower = s.lower := by
  simp only [text, core, rest, lowered, List.map_append, List.map_cons] at same
  obtain ⟨front, after, rfl, inFront, inAfter⟩ := List.map_eq_append_iff.1 same
  obtain ⟨before, core, rfl, inBefore, inCore⟩ := List.map_eq_append_iff.1 inFront
  obtain ⟨scheme, behind, rfl, inScheme, inBehind⟩ := List.map_eq_append_iff.1 inCore
  obtain ⟨colon, behind, rfl, inColon, inBehind⟩ := List.map_eq_cons_iff.1 inBehind
  obtain ⟨slashes, rest, rfl, inSlashes, inRest⟩ := List.map_eq_append_iff.1 inBehind
  obtain ⟨authority, path, rfl, inAuthority, inPath⟩ := List.map_eq_append_iff.1 inRest
  obtain ⟨credentials, hostPort, rfl, inCredentials, inHostPort⟩ := List.map_eq_append_iff.1 inAuthority
  obtain ⟨host, port, rfl, inHost, inPort⟩ := List.map_eq_append_iff.1 inHostPort
  obtain rfl : colon = ':' := (toLower_eq_iff _ rfl).1 inColon
  refine ⟨⟨before, scheme, slashes, credentials, host, port, path, after⟩, rfl, ?_⟩
  simp only [lower, lowered, inBefore, inScheme, inSlashes, inCredentials, inHost, inPort, inPath, inAfter]

end Spelling

namespace Origin

open Address

/-- Texts that differ only in the case of ASCII letters are read as the same origin. -/
theorem parse_recased {text other : String} {origin : Origin} (same : lowered other.toList = lowered text.toList)
    (read : parse text = .ok origin) : parse other = .ok origin := by
  obtain ⟨s, trimmed, scheme, host, reads, normal⟩ := Spelling.parse_eq_ok_iff_denotes.1 read
  have letters : lowered (Text.trim other.toList) = lowered s.text := by
    rw [trimmed, Text.trim, Text.trim, ← trimEnds_lowered isBlank_toLower, same, trimEnds_lowered isBlank_toLower]
  obtain ⟨s', trimmed', lower⟩ := Spelling.exists_recased letters
  have reads' : s'.Reads scheme host := Spelling.reads_lower_iff.1 (lower ▸ Spelling.reads_lower_iff.2 reads)
  have port : s'.port.drop 1 = s.port.drop 1 := by
    have ports : lowered s'.port = lowered s.port := congrArg Spelling.port lower
    have behind := congrArg (List.drop 1) ports
    simp only [lowered, ← List.map_drop] at behind
    have digits' := lowered_of_digits reads'.authority.digits
    have digits := lowered_of_digits reads.authority.digits
    rw [← digits', ← digits]
    exact behind
  exact Spelling.parse_eq_ok_iff_denotes.2 ⟨s', trimmed', scheme, host, reads', by rw [port, normal]⟩

end Origin

end OriginRegistry
