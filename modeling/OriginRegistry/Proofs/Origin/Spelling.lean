import OriginRegistry.Origin
import OriginRegistry.Proofs.Action
import OriginRegistry.Proofs.Address.Bare

/-!
# Spellings of origins

The texts that are read as origins. The address is read before it is looked at, and what its reader mends is not seen
any more: controls at both ends, slashes that are missing, too many or turned around, credentials that name nobody, a
colon without a port, and dot segments that lead back to where the path starts. All of these pass, and nothing else
passes that is not of the form scheme, host and port.
-/

set_option autoImplicit false

namespace OriginRegistry

open Address

namespace Origin

theorem ofAddress_bare {scheme : Scheme} (web : scheme.hasWebOrigin = true) (host : Host) (port : Option Nat) :
    ofAddress (bare scheme host port) = .ok (render scheme host port) := by
  simp [ofAddress, bare, web]

/-- An address that has an origin names nothing but a host and a port. -/
theorem eq_bare_of_ofAddress {a : Address} {normal : List Char} (ok : ofAddress a = .ok normal) :
    ∃ host, a = { bare a.scheme host a.port with path := a.path } ∧ (a.path ≠ [] → a.path = [[]]) ∧
      a.scheme.hasWebOrigin = true ∧ normal = render a.scheme host a.port := by
  obtain ⟨scheme, username, password, host?, port, path, query, fragment⟩ := a
  unfold ofAddress at ok
  cases host? with
  | none => cases ok
  | some host =>
    simp only [ite_error_eq_ok_iff] at ok
    obtain ⟨anonymous, root, plain, web, ok⟩ := ok
    simp only [Bool.or_eq_true, Bool.not_eq_true', not_or, Bool.not_eq_false, List.isEmpty_iff,
      Option.isSome_iff_ne_none, not_not] at anonymous plain
    obtain ⟨⟨rfl, rfl⟩, rfl, rfl⟩ := And.intro anonymous plain
    refine ⟨host, rfl, fun some => ?_, by simpa using web, (Except.ok.inj ok).symm⟩
    by_contra other
    exact root ⟨some, other⟩

theorem parse_eq_ok_iff {text : String} {origin : Origin} :
    parse text = .ok origin ↔
      (∀ c ∈ Text.trim text.toList, Text.isBlank c = false) ∧
        ∃ a, Address.parse (Text.trim text.toList) = .ok a ∧ ofAddress a = .ok origin.text.toList := by
  have trimmed : ofTrimmed (Text.trim text.toList) = .ok origin.text.toList ↔
      (∀ c ∈ Text.trim text.toList, Text.isBlank c = false) ∧
        ∃ a, Address.parse (Text.trim text.toList) = .ok a ∧ ofAddress a = .ok origin.text.toList := by
    rw [ofTrimmed, ite_error_eq_ok_iff, Bool.not_eq_true, List.any_eq_false]
    refine and_congr (by simp only [Bool.not_eq_true]) ?_
    cases Address.parse (Text.trim text.toList) <;> simp
  have text_eq (normal : List Char) : Origin.mk (String.ofList normal) = origin ↔ normal = origin.text.toList := by
    constructor
    · rintro rfl
      exact String.toList_ofList.symm
    · rintro rfl
      exact congrArg Origin.mk String.ofList_toList
  rw [← trimmed, parse]
  cases Text.trim text.toList with
  | nil => exact ⟨nofun, nofun⟩
  | cons c cs =>
    simp only
    cases ofTrimmed (c :: cs) with
    | error fault => exact ⟨nofun, nofun⟩
    | ok normal => rw [Except.ok.injEq, Except.ok.injEq, text_eq]

end Origin

/-- A text in the parts that its reader finds in it. -/
structure Spelling where
  before : List Char
  scheme : List Char
  slashes : List Char
  credentials : List Char
  host : List Char
  port : List Char
  path : List Char
  after : List Char

namespace Spelling

def rest (s : Spelling) : List Char := s.credentials ++ (s.host ++ s.port) ++ s.path

def core (s : Spelling) : List Char := s.scheme ++ ':' :: (s.slashes ++ s.rest)

def text (s : Spelling) : List Char := s.before ++ s.core ++ s.after

structure Reads (s : Spelling) (scheme : Scheme) (host : Host) : Prop where
  unblank : ∀ c ∈ s.text, Text.isBlank c = false
  before : ∀ c ∈ s.before, isPadding c = true
  after : ∀ c ∈ s.after, isPadding c = true
  ends : ∀ c ∈ s.core.getLast?, isPadding c = false
  name : IsSchemeName s.scheme
  known : Scheme.ofName (s.scheme.map Char.toLower) = scheme
  web : scheme.hasWebOrigin = true
  slashes : ∀ c ∈ s.slashes, isSlash true c = true
  authority : IsAuthority s.credentials s.host s.port host
  root : IsRoot s.path

def Denotes (s : Spelling) (origin : Origin) : Prop :=
  ∃ scheme host, s.Reads scheme host ∧
    origin.text.toList = Origin.render scheme host (scheme.namedPort? (portOf (s.port.drop 1)))

variable {s : Spelling} {scheme : Scheme} {host : Host}

theorem not_isPadding_of_schemeChar {c : Char} (h : isSchemeChar c = true) : isPadding c = false := by
  have controls : ∀ n < 33, isSchemeChar (Char.ofNat n) = false := by decide
  rw [isPadding, decide_eq_false_iff_not]
  intro low
  have none := controls c.toNat (Nat.lt_succ_of_le low)
  rw [Char.ofNat_toNat, h] at none
  cases none

theorem Reads.core_head (h : s.Reads scheme host) : ∀ c ∈ s.core.head?, isPadding c = false := by
  obtain ⟨⟨c, first, _⟩, chars⟩ := h.name
  intro x hx
  rw [core, List.head?_append, Option.mem_def.1 first] at hx
  exact not_isPadding_of_schemeChar (chars x (Option.some.inj hx ▸ List.mem_of_mem_head? first))

theorem Reads.slashes_stop (h : s.Reads scheme host) : ∀ c ∈ s.rest.head?, isSlash true c = false := by
  have marks : ∀ x ∈ emptyCredentials, ∀ c ∈ x.head?, isSlash true c = false := by simp [emptyCredentials, isSlash]
  have name : ∀ c ∈ s.host.head?, isSlash true c = false := by
    intro c hc
    have inside := h.authority.inside c (List.mem_append_left _ (List.mem_of_mem_head? hc))
    simp only [endsAuthority, Bool.or_eq_false_iff] at inside
    exact inside.1.1
  intro c hc
  rw [rest, List.append_assoc, List.head?_append, List.append_assoc,
    List.head?_append_of_ne_nil _ h.authority.name_ne_nil, Option.mem_def, Option.or_eq_some_iff] at hc
  rcases hc with first | ⟨_, second⟩
  · exact marks _ h.authority.credentials c first
  · exact name c second

theorem core_ne_nil (s : Spelling) : s.core ≠ [] := by simp [core]

theorem Reads.trimmed (h : s.Reads scheme host) : Text.trimEnds isPadding s.text = s.core :=
  Text.trimEnds_append h.before h.after h.core_head h.ends s.core_ne_nil

theorem Reads.parse (h : s.Reads scheme host) :
    Address.parse s.text = .ok (bare scheme host (scheme.namedPort? (portOf (s.port.drop 1)))) := by
  have split : splitScheme s.core = .some (s.scheme.map Char.toLower, s.slashes ++ s.rest) :=
    splitScheme_eq_some_iff.2 ⟨s.scheme, rfl, h.name, rfl⟩
  have dropped := Text.dropWhile_append_stop h.slashes h.slashes_stop
  rw [Address.parse, h.trimmed, split]
  simp only [h.known]
  rw [readRest_web h.web, dropped, rest, readAuthority_bare h.web h.authority h.root]

theorem exists_of_parse {cs normal : List Char} {a : Address} (unblank : ∀ c ∈ cs, Text.isBlank c = false)
    (read : Address.parse cs = .ok a) (ok : Origin.ofAddress a = .ok normal) :
    ∃ s : Spelling, s.text = cs ∧ ∃ scheme host, s.Reads scheme host ∧
      normal = Origin.render scheme host (scheme.namedPort? (portOf (s.port.drop 1))) := by
  obtain ⟨before, after, whole, padded, paddedAfter, ends⟩ := Text.exists_trimmed isPadding cs
  obtain ⟨host', same, root, web, rfl⟩ := Origin.eq_bare_of_ofAddress ok
  unfold Address.parse at read
  split at read
  case h_1 => cases read
  case h_2 _ lower rest found =>
    obtain ⟨scheme, trimmed, name, rfl⟩ := splitScheme_eq_some_iff.1 found
    have known := readRest_scheme read
    rw [known] at web
    rw [readRest_web web] at read
    obtain ⟨credentials, hostText, colon, path, host, parts, authority, starts, plain, bareOf⟩ :=
      readAuthority_eq_ok web read (congrArg Address.username same) (congrArg Address.password same)
        ⟨congrArg Address.query same, congrArg Address.fragment same⟩
    have toRoot : segments true path = [[]] := by
      rw [← show a.path = segments true path from congrArg Address.path bareOf]
      exact root ((congrArg Address.path bareOf).trans_ne (segments_ne_nil path))
    have slashes := List.takeWhile_append_dropWhile (p := isSlash true) (l := rest)
    rw [parts] at slashes
    let s : Spelling := ⟨before, scheme, rest.takeWhile (isSlash true), credentials, hostText, colon, path, after⟩
    have core_eq : s.core = Text.trimEnds isPadding cs := by
      rw [trimmed, ← slashes]
      rfl
    have text_eq : s.text = cs := by
      rw [whole, text, core_eq]
    refine ⟨s, text_eq, Scheme.ofName (scheme.map Char.toLower), host, ?_, ?_⟩
    · exact
        { unblank := by rwa [text_eq]
          before := padded
          after := paddedAfter
          ends := by rwa [core_eq]
          name := name
          known := rfl
          web := web
          slashes := fun c hc => List.mem_takeWhile_imp hc
          authority := authority
          root := ⟨starts, plain, toRoot⟩ }
    · obtain rfl : host = host' := Option.some.inj (congrArg Address.host (bareOf.symm.trans same))
      rw [known, show a.port = _ from congrArg Address.port bareOf]
      rfl

/-- The texts that are read as origins are the spellings of origins. -/
theorem parse_eq_ok_iff_denotes {text : String} {origin : Origin} :
    Origin.parse text = .ok origin ↔ ∃ s : Spelling, s.text = Text.trim text.toList ∧ s.Denotes origin := by
  rw [Origin.parse_eq_ok_iff]
  constructor
  · rintro ⟨unblank, a, read, ok⟩
    exact exists_of_parse unblank read ok
  · rintro ⟨s, same, scheme, host, reads, normal⟩
    rw [← same, normal]
    exact ⟨reads.unblank, _, reads.parse, Origin.ofAddress_bare reads.web host _⟩

/-- A scheme, a host, a port if there is one, and at most one slash behind them. A colon in the host stands in
    brackets. -/
structure IsDocumentedAs (cs front name colon slash : List Char) : Prop where
  parts : cs = front ++ ':' :: (['/', '/'] ++ (name ++ colon ++ slash))
  scheme : IsSchemeName front
  some : name ≠ []
  host : ∀ c ∈ name, endsAuthority true c = false ∧ c ≠ '@'
  split : splitHost false (name ++ colon) = (name, colon)
  port : colon = [] ∨ ∃ digits, colon = ':' :: digits ∧ digits ≠ [] ∧ ∀ c ∈ digits, c.isDigit = true
  slash : slash = [] ∨ slash = ['/']

def IsDocumented (cs : List Char) : Prop := ∃ front name colon slash, IsDocumentedAs cs front name colon slash

/-- A spelling in which nothing is mended. Controls at the end count as part of the host if they come right behind
    it. -/
structure IsPlain (s : Spelling) : Prop where
  before : s.before = []
  slashes : s.slashes = ['/', '/']
  credentials : s.credentials = []
  port : s.port ≠ [':']
  path : s.path = [] ∨ s.path = ['/']
  after : s.after = [] ∨ s.port = [] ∧ s.path = []

theorem not_special_of_isPadding {c : Char} (h : isPadding c = true) :
    endsAuthority true c = false ∧ c ≠ '@' ∧ c ≠ ':' ∧ c.isDigit = false := by
  have low : c.toNat ≤ 32 := of_decide_eq_true h
  refine ⟨?_, ?_, ?_, ?_⟩
  · rw [← Bool.not_eq_true, endsAuthority_iff]
    rintro (rfl | rfl | rfl | rfl) <;> exact absurd low (by decide)
  · rintro rfl
    exact absurd low (by decide)
  · rintro rfl
    exact absurd low (by decide)
  · cases digit : c.isDigit with
    | false => rfl
    | true =>
      have scheme : isSchemeChar c = true := by simp [isSchemeChar, Char.isAlphanum, digit]
      rw [not_isPadding_of_schemeChar scheme] at h
      cases h

theorem Reads.port_cases (h : s.Reads scheme host) : s.port = [] ∨ ∃ digits, s.port = ':' :: digits := by
  have colon := head?_splitHost false (s.host ++ s.port)
  rw [h.authority.split] at colon
  cases port : s.port with
  | nil => exact .inl rfl
  | cons c digits =>
    rw [port] at colon
    exact .inr ⟨digits, congrArg (· :: digits) (colon c rfl)⟩

theorem Reads.isDocumented (h : s.Reads scheme host) (plain : s.IsPlain) : IsDocumented s.text := by
  have inside : ∀ c ∈ s.host, endsAuthority true c = false ∧ c ≠ '@' := by
    intro c hc
    refine ⟨h.authority.inside c (List.mem_append_left _ hc), ?_⟩
    rintro rfl
    exact h.authority.unmarked (List.mem_append_left _ hc)
  have text_eq : s.text = s.scheme ++ ':' :: (['/', '/'] ++ (s.host ++ s.port ++ s.path)) ++ s.after := by
    rw [text, core, rest, plain.before, plain.slashes, plain.credentials]
    rfl
  rcases plain.after with none | ⟨portless, pathless⟩
  · refine ⟨s.scheme, s.host, s.port, s.path, ?_, h.name, h.authority.name_ne_nil, inside, h.authority.split, ?_,
      plain.path⟩
    · rw [text_eq, none, List.append_nil]
    · rcases h.port_cases with portless | ⟨digits, written⟩
      · exact .inl portless
      · refine .inr ⟨digits, written, fun none => plain.port (by rw [written, none]), ?_⟩
        have decimal := h.authority.digits
        rwa [written] at decimal
  · refine ⟨s.scheme, s.host ++ s.after, [], [], ?_, h.name, by simp [h.authority.name_ne_nil], ?_, ?_, .inl rfl,
      .inl rfl⟩
    · rw [text_eq, portless, pathless]
      simp
    · intro c hc
      rcases List.mem_append.1 hc with hc | hc
      · exact inside c hc
      · exact ⟨(not_special_of_isPadding (h.after c hc)).1, (not_special_of_isPadding (h.after c hc)).2.1⟩
    · have split := h.authority.split
      rw [portless, List.append_nil] at split
      have colonless : ':' ∉ s.after := fun hc => (not_special_of_isPadding (h.after ':' hc)).2.2.1 rfl
      rw [List.append_nil, splitHost_more colonless, split, if_pos rfl]

theorem Reads.documented_front (h : s.Reads scheme host) {front name colon slash : List Char}
    (documented : IsDocumentedAs s.text front name colon slash) :
    s.before = [] ∧ s.scheme = front ∧ s.slashes = ['/', '/'] ∧ s.rest ++ s.after = name ++ colon ++ slash := by
  have parts := documented.parts
  have before : s.before = [] := by
    obtain ⟨⟨d, first, _⟩, chars⟩ := documented.scheme
    have letter := not_isPadding_of_schemeChar (chars d (List.mem_of_mem_head? first))
    cases padded : s.before with
    | nil => rfl
    | cons c before =>
      have heads := congrArg List.head? parts
      rw [text, padded, List.head?_append (l := front), Option.mem_def.1 first] at heads
      obtain rfl : c = d := Option.some.inj heads
      rw [h.before c (by rw [padded]; exact List.mem_cons_self)] at letter
      cases letter
  have colonStop (rest : List Char) : ∀ c ∈ (':' :: rest).head?, isSchemeChar c = false := by
    rintro c ⟨⟩
    decide
  rw [text, core, before, List.nil_append, List.append_assoc] at parts
  obtain ⟨schemes, behind⟩ := Text.append_stop_inj parts h.name.2 (colonStop _) documented.scheme.2 (colonStop _)
  rw [List.cons_append, List.cons.injEq, List.append_assoc] at behind
  have slashesStop : ∀ c ∈ (s.rest ++ s.after).head?, isSlash true c = false := by
    have some : s.rest ≠ [] := by simp [rest, h.authority.name_ne_nil]
    rw [List.head?_append_of_ne_nil _ some]
    exact h.slashes_stop
  have nameStop : ∀ c ∈ (name ++ colon ++ slash).head?, isSlash true c = false := by
    intro c hc
    rw [List.append_assoc, List.head?_append_of_ne_nil _ documented.some] at hc
    have inside := (documented.host c (List.mem_of_mem_head? hc)).1
    simp only [endsAuthority, Bool.or_eq_false_iff] at inside
    exact inside.1.1
  exact ⟨before, schemes, Text.append_stop_inj behind.2 h.slashes slashesStop (by simp [isSlash]) nameStop⟩

theorem IsDocumentedAs.colon_chars {cs front name colon slash : List Char}
    (h : IsDocumentedAs cs front name colon slash) : ∀ c ∈ colon, c = ':' ∨ c.isDigit = true := by
  rcases h.port with rfl | ⟨digits, rfl, _, decimal⟩
  · exact nofun
  · intro c hc
    exact (List.mem_cons.1 hc).imp_right (decimal c)

theorem IsDocumentedAs.colon_ne {cs front name colon slash : List Char}
    (h : IsDocumentedAs cs front name colon slash) : colon ≠ [':'] := by
  rintro rfl
  rcases h.port with none | ⟨digits, same, some, _⟩
  · cases none
  · exact some (List.cons.inj same).2.symm

theorem IsDocumentedAs.authority_chars {cs front name colon slash : List Char}
    (h : IsDocumentedAs cs front name colon slash) :
    ∀ c ∈ name ++ colon, endsAuthority true c = false ∧ c ≠ '@' := by
  intro c hc
  rcases List.mem_append.1 hc with hc | hc
  · exact h.host c hc
  · rcases h.colon_chars c hc with rfl | digit
    · decide
    · exact endsAuthority_of_isDigit digit

theorem Reads.documented_credentials (h : s.Reads scheme host) {front name colon slash : List Char}
    (documented : IsDocumentedAs s.text front name colon slash) : s.credentials = [] := by
  obtain ⟨_, _, _, behind⟩ := h.documented_front documented
  have unmarked : '@' ∉ s.credentials := by
    intro marked
    have member : '@' ∈ s.rest ++ s.after := by simp [rest, marked]
    rw [behind] at member
    rcases List.mem_append.1 member with first | second
    · exact (documented.authority_chars '@' first).2 rfl
    · rcases documented.slash with rfl | rfl <;> simp at second
  have empty := h.authority.credentials
  simp only [emptyCredentials, List.mem_cons, List.not_mem_nil, or_false] at empty
  rcases empty with none | marked | marked
  · exact none
  · exact absurd (by rw [marked]; decide) unmarked
  · exact absurd (by rw [marked]; decide) unmarked

theorem Reads.documented_behind (h : s.Reads scheme host) {front name colon slash : List Char}
    (documented : IsDocumentedAs s.text front name colon slash) :
    s.host ++ s.port ++ (s.path ++ s.after) = name ++ colon ++ slash := by
  obtain ⟨_, _, _, behind⟩ := h.documented_front documented
  rwa [rest, h.documented_credentials documented, List.nil_append, List.append_assoc] at behind

theorem Reads.inAuthority (h : s.Reads scheme host) : ∀ c ∈ s.host ++ s.port, (!endsAuthority true c) = true := by
  intro c hc
  rw [h.authority.inside c hc]
  rfl

theorem IsDocumentedAs.inAuthority {cs front name colon slash : List Char}
    (h : IsDocumentedAs cs front name colon slash) : ∀ c ∈ name ++ colon, (!endsAuthority true c) = true := by
  intro c hc
  rw [(h.authority_chars c hc).1]
  rfl

theorem IsDocumentedAs.slash_stop {cs front name colon slash : List Char}
    (h : IsDocumentedAs cs front name colon slash) : ∀ c ∈ slash.head?, (!endsAuthority true c) = false := by
  rcases h.slash with rfl | rfl <;> simp [endsAuthority, isSlash]

/-- Without a path the controls at the end run on from the authority. Behind a port they would be digits. -/
theorem Reads.isPlain_of_path_eq_nil (h : s.Reads scheme host) {front name colon slash : List Char}
    (documented : IsDocumentedAs s.text front name colon slash) (path : s.path = []) : s.IsPlain := by
  obtain ⟨before, _, slashes, _⟩ := h.documented_front documented
  have credentials := h.documented_credentials documented
  have behind := h.documented_behind documented
  have inside : ∀ c ∈ s.host ++ s.port ++ s.after, (!endsAuthority true c) = true := by
    intro c hc
    rcases List.mem_append.1 hc with hc | hc
    · exact h.inAuthority c hc
    · rw [(not_special_of_isPadding (h.after c hc)).1]
      rfl
  have whole : s.host ++ s.port ++ s.after ++ [] = name ++ colon ++ slash := by
    rwa [path, List.nil_append, ← List.append_nil s.after, ← List.append_assoc] at behind
  obtain ⟨same, _⟩ := Text.append_stop_inj whole inside (by simp) documented.inAuthority documented.slash_stop
  have colonless : ':' ∉ s.after := fun hc => (not_special_of_isPadding (h.after ':' hc)).2.2.1 rfl
  have split := splitHost_more colonless false (s.host ++ s.port)
  rw [same, documented.split, h.authority.split] at split
  rcases h.port_cases with portless | ⟨digits, written⟩
  · exact ⟨before, slashes, credentials, by simp [portless], .inl path, .inr ⟨portless, path⟩⟩
  · rw [if_neg (by simp [written])] at split
    obtain ⟨_, rfl⟩ := Prod.mk.inj split
    have none : s.after = [] := by
      refine List.eq_nil_iff_forall_not_mem.2 fun c hc => ?_
      obtain ⟨_, _, colon, digit⟩ := not_special_of_isPadding (h.after c hc)
      rcases documented.colon_chars c (List.mem_append_right _ hc) with same | decimal
      · exact colon same
      · rw [digit] at decimal
        cases decimal
    have some := documented.colon_ne
    rw [none, List.append_nil] at some
    exact ⟨before, slashes, credentials, some, .inl path, .inl none⟩

theorem Reads.isPlain_of_path_ne_nil (h : s.Reads scheme host) {front name colon slash : List Char}
    (documented : IsDocumentedAs s.text front name colon slash) (path : s.path ≠ []) : s.IsPlain := by
  obtain ⟨before, _, slashes, _⟩ := h.documented_front documented
  have credentials := h.documented_credentials documented
  have stop : ∀ c ∈ (s.path ++ s.after).head?, (!endsAuthority true c) = false := by
    rw [List.head?_append_of_ne_nil _ path]
    intro c hc
    rw [endsAuthority, h.root.starts c hc]
    rfl
  obtain ⟨same, tail⟩ := Text.append_stop_inj (h.documented_behind documented) h.inAuthority stop
    documented.inAuthority documented.slash_stop
  have split := h.authority.split
  rw [same, documented.split] at split
  obtain ⟨_, rfl⟩ := Prod.mk.inj split
  have single : s.path ++ s.after = ['/'] := by
    rcases documented.slash with none | one
    · rw [none, List.append_eq_nil_iff] at tail
      exact absurd tail.1 path
    · rw [tail, one]
  obtain ⟨none, _⟩ | ⟨one, none⟩ := List.append_eq_singleton_iff.1 single
  · exact absurd none path
  · exact ⟨before, slashes, credentials, documented.colon_ne, .inr one, .inl none⟩

theorem Reads.isPlain (h : s.Reads scheme host) (documented : IsDocumented s.text) : s.IsPlain := by
  obtain ⟨front, name, colon, slash, documented⟩ := documented
  by_cases path : s.path = []
  · exact h.isPlain_of_path_eq_nil documented path
  · exact h.isPlain_of_path_ne_nil documented path

theorem Reads.isDocumented_iff (h : s.Reads scheme host) : IsDocumented s.text ↔ s.IsPlain :=
  ⟨h.isPlain, h.isDocumented⟩

end Spelling

namespace Origin

/-- What is read is a spelling of what it is read as, and it is of the documented form just if nothing in it is
    mended. -/
theorem read_iff_spelling (text : String) (origin : Origin) :
    parse text = .ok origin ↔
      ∃ s : Spelling, s.text = Text.trim text.toList ∧ s.Denotes origin ∧
        (Spelling.IsDocumented s.text ↔ s.IsPlain) := by
  rw [Spelling.parse_eq_ok_iff_denotes]
  constructor
  · rintro ⟨s, same, scheme, host, reads, normal⟩
    exact ⟨s, same, ⟨scheme, host, reads, normal⟩, reads.isDocumented_iff⟩
  · rintro ⟨s, same, denotes, _⟩
    exact ⟨s, same, denotes⟩

def dottedSpelling : Spelling :=
  { before := [], scheme := ['h', 't', 't', 'p'], slashes := ['/', '/'], credentials := []
    host := ['f', 'o', 'o', '.', 'c', 'o', 'm'], port := [], path := ['/', 'a', '/', '.', '.'], after := [] }

theorem dottedSpelling_reads : dottedSpelling.Reads .http (.domain ['f', 'o', 'o', '.', 'c', 'o', 'm']) where
  unblank := by simp [dottedSpelling, Spelling.text, Spelling.core, Spelling.rest, Text.isBlank]
  before := nofun
  after := nofun
  ends := by simp [dottedSpelling, Spelling.core, Spelling.rest, isPadding]
  name := ⟨⟨'h', rfl, rfl⟩, List.all_eq_true.1 rfl⟩
  known := rfl
  web := rfl
  slashes := by simp [dottedSpelling, isSlash]
  authority :=
    { credentials := by decide
      inside := by simp [dottedSpelling, endsAuthority, isSlash]
      unmarked := by decide
      split := rfl
      host := rfl
      digits := nofun
      small := by decide }
  root := ⟨by simp [dottedSpelling, isSlash], by simp [dottedSpelling], rfl⟩

/-- So there are texts that are read as origins and have a path. -/
theorem dotted_path_read :
    parse "http://foo.com/a/.." = .ok ⟨"http://foo.com"⟩ ∧ ¬ Spelling.IsDocumented "http://foo.com/a/..".toList := by
  have documented := dottedSpelling_reads.isDocumented_iff
  have mended : ¬ dottedSpelling.IsPlain := fun plain => absurd plain.path (by decide)
  refine ⟨(read_iff_spelling _ _).2 ⟨dottedSpelling, rfl, ⟨_, _, dottedSpelling_reads, rfl⟩, documented⟩, ?_⟩
  exact fun read => mended (documented.1 read)

end Origin

end OriginRegistry
