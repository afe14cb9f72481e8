import OriginRegistry.Proofs.Host.NormalForm
import OriginRegistry.Proofs.Origin.Spelling

set_option autoImplicit false

namespace OriginRegistry

open Address

variable {scheme : Scheme} {host : Host}

theorem Scheme.isSchemeName_name (web : scheme.hasWebOrigin = true) : IsSchemeName scheme.name := by
  cases scheme <;> first | exact ⟨⟨_, rfl, by decide⟩, List.all_eq_true.1 (by decide)⟩ | cases web

theorem Scheme.ofName_name (web : scheme.hasWebOrigin = true) :
    Scheme.ofName (scheme.name.map Char.toLower) = scheme := by
  cases scheme <;> first | rfl | cases web

theorem Host.IsProper.splitHost_text (proper : host.IsProper) {colon : List Char}
    (starts : ∀ c ∈ colon.head?, c = ':') : splitHost false (host.text ++ colon) = (host.text, colon) := by
  have digits : ∀ c ∈ Text.lowerHexDigits, c ≠ '[' ∧ c ≠ ']' ∧ c ≠ ':' := List.all_iff_forall_prop.1 (by decide)
  have bare {name : List Char} (colonless : ':' ∉ name) (unbracketed : '[' ∉ name) :
      splitHost false (name ++ colon) = (name, colon) :=
    splitHost_closed (by rw [splitHost_plain colonless]) (.inr ⟨rfl, unbracketed⟩) starts
  cases proper with
  | domain _ _ allowed =>
    exact bare (fun found => absurd (allowed ':' found) (by decide)) fun found => absurd (allowed '[' found) (by decide)
  | @ipv4 address =>
    have apart : ∀ c ∈ Host.IPv4.text address, c ≠ '[' ∧ c ≠ ':' := by
      intro c hc
      rcases Host.IPv4.mem_text hc with rfl | digit
      · decide
      · exact ⟨(digits c digit).1, (digits c digit).2.2⟩
    exact bare (fun found => (apart ':' found).2 rfl) fun found => (apart '[' found).1 rfl
  | @ipv6 groups =>
    have inside : ∀ c ∈ Host.IPv6.text groups, c ≠ '[' ∧ c ≠ ']' ∧ (c = ':' → true = true) := by
      intro c hc
      rcases Host.IPv6.mem_text hc with rfl | digit
      · decide
      · exact ⟨(digits c digit).1, (digits c digit).2.1, fun _ => rfl⟩
    have portless : (splitHost false ('[' :: (Host.IPv6.text groups ++ [']']))).2 = [] := by
      rw [splitHost, if_neg (by decide), if_pos rfl, splitHost_inside inside]
      rfl
    exact splitHost_closed portless (.inl List.getLast?_concat) starts

def portText (port : Option Nat) : List Char :=
  match port with
  | none => []
  | some n => ':' :: Nat.toDigits 10 n

theorem head?_portText (port : Option Nat) : ∀ c ∈ (portText port).head?, c = ':' := by
  cases port with
  | none => exact nofun
  | some n => exact fun c hc => (Option.some.inj hc).symm

theorem mem_portText {port : Option Nat} {c : Char} (hc : c ∈ portText port) : c = ':' ∨ c.isDigit = true := by
  cases port with
  | none => cases hc
  | some n => exact (List.mem_cons.1 hc).imp_right (Nat.isDigit_of_mem_toDigits (by decide) (by decide))

theorem portOf_portText (port : Option Nat) : portOf ((portText port).drop 1) = port := by
  cases port with
  | none => rfl
  | some n => exact portOf_toDigits n

theorem Origin.render_eq (scheme : Scheme) (host : Host) (port : Option Nat) :
    Origin.render scheme host port = scheme.name ++ [':', '/', '/'] ++ host.text ++ portText port := by
  cases port <;> rfl

namespace Spelling

def normal (scheme : Scheme) (host : Host) (port : Option Nat) : Spelling :=
  ⟨[], scheme.name, ['/', '/'], [], host.text, portText port, [], []⟩

theorem text_normal (scheme : Scheme) (host : Host) (port : Option Nat) :
    (normal scheme host port).text = Origin.render scheme host port := by
  rw [Origin.render_eq]
  simp [normal, text, core, rest]

theorem visible_of_range {c low high : Char} (above : 32 < low.toNat) (below : high.toNat < 127) (least : low.val ≤ c.val)
    (greatest : c.val ≤ high.val) : 32 < c.toNat ∧ c.toNat < 127 :=
  ⟨Nat.lt_of_lt_of_le above (UInt32.le_iff_toNat_le.1 least),
    Nat.lt_of_le_of_lt (UInt32.le_iff_toNat_le.1 greatest) below⟩

theorem visible_of_schemeChar {c : Char} (schemeChar : isSchemeChar c = true) : 32 < c.toNat ∧ c.toNat < 127 := by
  have small : 32 < 'a'.toNat ∧ 'z'.toNat < 127 := by decide
  have large : 32 < 'A'.toNat ∧ 'Z'.toNat < 127 := by decide
  have digits : 32 < '0'.toNat ∧ '9'.toNat < 127 := by decide
  simp only [isSchemeChar, Bool.or_eq_true, beq_iff_eq] at schemeChar
  rcases schemeChar with ((alphanumeric | rfl) | rfl) | rfl
  · rcases Bool.or_eq_true_iff.1 alphanumeric with letter | digit
    · rcases Bool.or_eq_true_iff.1 letter with upper | lower
      · obtain ⟨least, greatest⟩ := of_decide_eq_true upper
        exact visible_of_range large.1 large.2 least greatest
      · obtain ⟨least, greatest⟩ := Bool.and_eq_true_iff.1 lower
        exact visible_of_range small.1 small.2 (of_decide_eq_true least) (of_decide_eq_true greatest)
    · obtain ⟨least, greatest⟩ := Bool.and_eq_true_iff.1 digit
      exact visible_of_range digits.1 digits.2 (of_decide_eq_true least) (of_decide_eq_true greatest)
  · decide
  · decide
  · decide

theorem visible_of_isDigit {c : Char} (digit : c.isDigit = true) : 32 < c.toNat ∧ c.toNat < 127 :=
  visible_of_schemeChar (by simp [isSchemeChar, Char.isAlphanum, digit])

theorem visible_of_mem_core (web : scheme.hasWebOrigin = true) (proper : host.IsProper) {port : Option Nat} {c : Char}
    (hc : c ∈ (normal scheme host port).core) : 32 < c.toNat ∧ c.toNat < 127 := by
  have signs : ∀ c ∈ [':', '/'], 32 < c.toNat ∧ c.toNat < 127 := List.all_iff_forall_prop.1 (by decide)
  simp only [core, rest, normal, List.mem_append, List.mem_cons, List.not_mem_nil, false_or, or_false] at hc
  rcases hc with name | rfl | (rfl | rfl) | hostChar | portChar
  · have letters : ∀ c ∈ scheme.name, 32 < c.toNat ∧ c.toNat < 127 := by
      cases scheme <;> first | exact List.all_iff_forall_prop.1 (by decide) | cases web
    exact letters c name
  · exact signs ':' (by decide)
  · exact signs '/' (by decide)
  · exact signs '/' (by decide)
  · obtain ⟨low, high, _⟩ := proper.isHostChar c hostChar
    exact ⟨low, high⟩
  · rcases mem_portText portChar with rfl | digit
    · exact signs ':' (by decide)
    · exact visible_of_isDigit digit

theorem not_isBlank_of_visible {c : Char} (visible : 32 < c.toNat ∧ c.toNat < 127) : Text.isBlank c = false := by
  simp only [Text.isBlank, Bool.or_eq_false_iff, Bool.and_eq_false_iff, decide_eq_false_iff_not, beq_eq_false_iff_ne]
  omega

theorem isAuthority_normal (proper : host.IsProper) (settled : host.IsSettled) {port : Option Nat}
    (small : ∀ n ∈ port, n < 65536) : IsAuthority [] host.text (portText port) host := by
  have signs : ∀ c ∈ host.text ++ portText port, endsAuthority true c = false ∧ c ≠ '@' := by
    intro c hc
    rcases List.mem_append.1 hc with hostChar | portChar
    · obtain ⟨_, _, apart⟩ := proper.isHostChar c hostChar
      simp only [List.mem_cons, List.not_mem_nil, or_false, not_or] at apart
      simp [endsAuthority, isSlash, apart]
    · rcases mem_portText portChar with rfl | digit
      · decide
      · exact endsAuthority_of_isDigit digit
  exact
    { credentials := by decide
      inside := fun c hc => (signs c hc).1
      unmarked := fun marked => (signs '@' marked).2 rfl
      split := proper.splitHost_text (head?_portText port)
      host := proper.parse_text settled
      digits := by
        intro c hc
        cases port with
        | none => cases hc
        | some n => exact Nat.isDigit_of_mem_toDigits (by decide) (by decide) hc
      small := by
        cases port with
        | none => decide
        | some n =>
          have value := portFrom_toDigits n
          exact value.trans_lt (small n rfl) }

theorem reads_normal (web : scheme.hasWebOrigin = true) (proper : host.IsProper) (settled : host.IsSettled)
    {port : Option Nat} (small : ∀ n ∈ port, n < 65536) : (normal scheme host port).Reads scheme host := by
  exact
    { unblank := by
        intro c hc
        have inCore : c ∈ (normal scheme host port).core := by simpa [text, normal] using hc
        exact not_isBlank_of_visible (visible_of_mem_core web proper inCore)
      before := List.forall_mem_nil _
      after := List.forall_mem_nil _
      ends := by
        intro c hc
        have visible := visible_of_mem_core web proper (List.mem_of_mem_getLast? hc)
        exact decide_eq_false (Nat.not_le_of_lt visible.1)
      name := Scheme.isSchemeName_name web
      known := Scheme.ofName_name web
      web := web
      slashes := show ∀ c ∈ ['/', '/'], isSlash true c = true from List.all_eq_true.1 rfl
      authority := isAuthority_normal proper settled small
      root := isRoot_nil }

theorem parse_render (web : scheme.hasWebOrigin = true) (proper : host.IsProper) (settled : host.IsSettled)
    {port : Option Nat} (small : ∀ n ∈ port, n < 65536) (named : scheme.namedPort? port = port) {origin : Origin}
    (normal : origin.text.toList = Origin.render scheme host port) : Origin.parse origin.text = .ok origin := by
  have reads := reads_normal web proper settled small
  have text_eq := text_normal scheme host port
  have some : origin.text.toList ≠ [] := by simp [normal, Origin.render_eq]
  have unblank := reads.unblank
  rw [text_eq, ← normal] at unblank
  have trimmed : Text.trim origin.text.toList = origin.text.toList :=
    Text.trim_of_unblank unblank some
  refine parse_eq_ok_iff_denotes.2 ⟨Spelling.normal scheme host port, ?_, scheme, host, reads, ?_⟩
  · rw [text_eq, trimmed, normal]
  · rw [show (Spelling.normal scheme host port).port = portText port from rfl, portOf_portText, named, normal]

end Spelling

namespace Origin

/-- The grammar of normal texts. The host is ASCII in small letters; the port is written in decimal. -/
structure IsNormal (cs : List Char) (scheme : Scheme) (name : List Char) (port : Option Nat) : Prop where
  parts : cs = scheme.name ++ [':', '/', '/'] ++ name ++ portText port
  known : scheme.name ∈ [Scheme.httpName, Scheme.httpsName, Scheme.wsName, Scheme.wssName, Scheme.ftpName]
  some : name ≠ []
  host : ∀ c ∈ name, c.toNat < 128 ∧ c.isUpper = false ∧ Text.isBlank c = false ∧ c ∉ ['/', '\\', '?', '#', '@']
  split : splitHost false (name ++ portText port) = (name, portText port)
  bounded : ∀ n ∈ port, n ≤ 65535 ∧ scheme.defaultPort? ≠ Option.some n
  leading : ∀ digits, portText port = ':' :: '0' :: digits → digits = []
  unslashed : cs.getLast? ≠ Option.some '/'

theorem isNormal_render (web : scheme.hasWebOrigin = true) (proper : host.IsProper) (settled : host.IsSettled)
    {port : Option Nat} (small : ∀ n ∈ port, n ≤ 65535 ∧ scheme.defaultPort? ≠ some n) :
    IsNormal (render scheme host port) scheme host.text port where
  parts := render_eq scheme host port
  known := by cases scheme <;> first | decide | cases web
  some := proper.text_ne_nil
  host := by
    intro c hc
    obtain ⟨low, high, apart⟩ := proper.isHostChar c hc
    simp only [List.mem_cons, List.not_mem_nil, or_false, not_or] at apart
    exact ⟨Nat.lt_succ_of_lt high, settled.lower proper c hc, Spelling.not_isBlank_of_visible ⟨low, high⟩, by simp [apart]⟩
  split := proper.splitHost_text (head?_portText port)
  bounded := small
  leading := by
    intro digits written
    cases port with
    | none => cases written
    | some n =>
      have number : Nat.toDigits 10 n = '0' :: digits := (List.cons.inj written).2
      rcases Nat.eq_zero_or_pos n with rfl | pos
      · exact (List.cons.inj number).2.symm
      · exact absurd (by rw [number]; rfl) (Text.head_toDigits pos)
  unslashed := by
    rw [render_eq, List.append_assoc, List.getLast?_append_of_ne_nil _ (by simp [proper.text_ne_nil])]
    intro slash
    rcases List.mem_append.1 (List.mem_of_mem_getLast? slash) with hostChar | portChar
    · exact (proper.isHostChar '/' hostChar).2.2 (by decide)
    · rcases mem_portText portChar with same | digit
      · cases same
      · exact absurd digit (by decide)

/-- The text of an origin that was read is normal, and is read as the origin again. Idempotence of the ASCII form is
    needed for the one name at hand. -/
theorem parse_normal {text : String} {origin : Origin} (read : parse text = .ok origin)
    (settled : ∀ a name, Address.parse (Text.trim text.toList) = .ok a → a.host = some (.domain name) →
      Host.Domain.toAscii name = some name) :
    (∃ a host, Address.parse (Text.trim text.toList) = .ok a ∧ a.host = some host ∧
        IsNormal origin.text.toList a.scheme host.text a.port) ∧
      parse origin.text = .ok origin := by
  obtain ⟨s, same, scheme, host, reads, normal⟩ := Spelling.parse_eq_ok_iff_denotes.1 read
  have parsed := reads.parse
  rw [same] at parsed
  have proper := Host.isProper_of_parse reads.authority.host
  have own : host.IsSettled := fun name domain => settled _ name parsed (congrArg some domain)
  have small : ∀ n ∈ scheme.namedPort? (portOf (s.port.drop 1)), n ≤ 65535 ∧ scheme.defaultPort? ≠ some n := by
    intro n hn
    obtain ⟨written, named⟩ := Scheme.namedPort?_eq_some_iff.1 hn
    rw [portOf, Option.ite_none_left_eq_some] at written
    exact ⟨Nat.le_of_lt_succ (Option.some.inj written.2 ▸ reads.authority.small), named⟩
  refine ⟨⟨_, host, parsed, rfl, ?_⟩, ?_⟩
  · rw [normal]
    exact isNormal_render reads.web proper own small
  · exact Spelling.parse_render reads.web proper own (fun n hn => Nat.lt_succ_of_le (small n hn).1)
      (Scheme.namedPort?_namedPort? _ _) normal

/-- Capitals, slashes the wrong way round, an encoded letter, the default port and a path of dots. -/
theorem odd_spelling_normal :
    parse "HTTPS:\\\\Ex%41mple.COM:0443/./" = .ok ⟨"https://example.com"⟩ ∧
      parse "https://example.com" = .ok ⟨"https://example.com"⟩ := by
  have read : parse "HTTPS:\\\\Ex%41mple.COM:0443/./" = .ok ⟨"https://example.com"⟩ := rfl
  refine ⟨read, (parse_normal read ?_).2⟩
  intro a name parsed domain
  have found : Address.parse (Text.trim "HTTPS:\\\\Ex%41mple.COM:0443/./".toList) =
      .ok (bare .https (.domain "example.com".toList) none) := rfl
  cases found.symm.trans parsed
  cases domain
  rfl

end Origin

end OriginRegistry
