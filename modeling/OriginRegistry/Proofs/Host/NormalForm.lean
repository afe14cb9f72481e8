import OriginRegistry.Host
import OriginRegistry.Proofs.Host.Domain
import OriginRegistry.Proofs.Host.Internet

/-!
# The normal text of a host

What a host that is read looks like, and that its normal text is read as the same host. Of a domain name this is so if
the name is its own ASCII form, which every name is of which no label claims to be encoded.
-/

set_option autoImplicit false

namespace OriginRegistry.Host

open Text (lowerHexDigits)

/-- What a host satisfies that is read from an address of the web. -/
inductive IsProper : Host → Prop
  | domain {name : List Char} (some : name ≠ []) (ascii : ∀ c ∈ name, c.toNat < 128)
      (allowed : ∀ c ∈ name, Domain.isForbidden c = false) (named : IPv4.endsInNumber name = false) :
      IsProper (.domain name)
  | ipv4 {address : Nat} (fits : address < 2 ^ 32) : IsProper (.ipv4 address)
  | ipv6 {groups : List Nat} (address : IPv6.IsAddress groups) : IsProper (.ipv6 groups)

/-- A domain name that is its own ASCII form. Internet addresses are not mapped. -/
def IsSettled (host : Host) : Prop := ∀ name, host = .domain name → Domain.toAscii name = some name

variable {cs : List Char} {host : Host}

theorem bracketed_eq_ok_iff :
    bracketed cs = .ok host ↔
      cs.getLast? = some ']' ∧ ∃ groups, IPv6.parse? (cs.drop 1).dropLast = some groups ∧ host = .ipv6 groups := by
  simp only [bracketed, beq_iff_eq]
  split
  next closed => cases IPv6.parse? (cs.drop 1).dropLast <;> simp [closed, eq_comm]
  next unclosed => simp [unclosed]

theorem named_eq_ok_iff :
    named cs = .ok host ↔
      ∃ name, (Text.percentDecode cs).toOption.bind Domain.toAscii = some name ∧ name ≠ [] ∧
        if IPv4.endsInNumber name then ∃ address, IPv4.parse? name = some address ∧ host = .ipv4 address
        else host = .domain name := by
  unfold named
  generalize (Text.percentDecode cs).toOption.bind Domain.toAscii = found
  split
  next => simp
  next => simp
  next name some =>
    have some : name ≠ [] := some
    simp only [Option.some.injEq, exists_eq_left']
    cases IPv4.endsInNumber name with
    | false => simp [some, eq_comm]
    | true => cases IPv4.parse? name <;> simp [some, eq_comm]

theorem parse_named (unbracketed : cs.head? ≠ some '[') : parse cs = named cs := by
  unfold parse
  split
  next => exact absurd rfl unbracketed
  next => rfl

/-- A host that is read from an address of the web is a domain name or an internet address. -/
theorem isProper_of_parse (read : parse cs = .ok host) : host.IsProper := by
  by_cases bracket : cs.head? = some '['
  · obtain ⟨rest, rfl⟩ := List.head?_eq_some_iff.1 bracket
    obtain ⟨_, groups, address, rfl⟩ := bracketed_eq_ok_iff.1 read
    exact .ipv6 (IPv6.isAddress_of_parse? address)
  · rw [parse_named bracket, named_eq_ok_iff] at read
    obtain ⟨name, found, some, meant⟩ := read
    obtain ⟨decoded, _, toAscii⟩ := Option.bind_eq_some_iff.1 found
    split at meant
    next =>
      obtain ⟨address, read, rfl⟩ := meant
      exact .ipv4 (IPv4.parse?_lt read)
    next other =>
      subst meant
      exact .domain some (Domain.toAscii_ascii toAscii) (Domain.toAscii_allowed toAscii) (by simpa using other)

theorem of_named (read : named cs = .ok host) {c : Char} (member : c ∈ cs) (forbidden : Domain.isForbidden c = true) :
    c = '%' ∨ c = '<' ∨ c = '>' := by
  obtain ⟨name, found, _⟩ := named_eq_ok_iff.1 read
  obtain ⟨decoded, decodes, toAscii⟩ := Option.bind_eq_some_iff.1 found
  by_cases percent : c = '%'
  · exact .inl percent
  · have other : Text.hexDigit? c = none := by
      have all := Text.forall_ascii (p := fun c => !Domain.isForbidden c || (Text.hexDigit? c).isNone) (by decide)
        (Domain.ascii_of_forbidden forbidden)
      simpa [forbidden] using all
    cases decoding : Text.percentDecode cs with
    | error e =>
      rw [decoding] at decodes
      cases decodes
    | ok ds =>
      rw [decoding] at decodes
      obtain rfl : ds = decoded := Option.some.inj decodes
      exact .inr (Domain.joined_of_toAscii toAscii (Text.mem_percentDecode percent other decoding member) forbidden)

theorem closed_of_parse (read : parse cs = .ok host) (bracket : '[' ∈ cs) : cs.getLast? = some ']' := by
  by_cases first : cs.head? = some '['
  · obtain ⟨rest, rfl⟩ := List.head?_eq_some_iff.1 first
    exact (bracketed_eq_ok_iff.1 read).1
  · rw [parse_named first] at read
    exact absurd (of_named read bracket rfl) (by decide)

theorem visible_of_parse (read : parse cs = .ok host) : ∀ c ∈ cs.getLast?, 32 < c.toNat := by
  intro c hc
  by_cases first : cs.head? = some '['
  · obtain ⟨rest, rfl⟩ := List.head?_eq_some_iff.1 first
    rw [Option.some.inj (hc.symm.trans (bracketed_eq_ok_iff.1 read).1)]
    decide
  · rw [parse_named first] at read
    by_contra low
    have forbidden : Domain.isForbidden c = true := by simp [Domain.isForbidden, Nat.le_of_not_lt low]
    rcases of_named read (List.mem_of_mem_getLast? hc) forbidden with rfl | rfl | rfl <;> exact low (by decide)

def IsHostChar (c : Char) : Prop := 32 < c.toNat ∧ c.toNat < 127 ∧ c ∉ ['/', '\\', '?', '#', '@', '%']

theorem isHostChar_of_allowed {c : Char} (ascii : c.toNat < 128) (allowed : Domain.isForbidden c = false) :
    IsHostChar c := by
  simp only [Domain.isForbidden, Bool.or_eq_false_iff, decide_eq_false_iff_not, beq_eq_false_iff_ne, ne_eq,
    List.contains_eq_mem, List.mem_cons, List.not_mem_nil, or_false, not_or] at allowed
  refine ⟨by omega, by omega, ?_⟩
  simp [allowed]

theorem isHostChar_of_hexDigit : ∀ c ∈ lowerHexDigits, IsHostChar c ∧ c.isUpper = false := by
  unfold IsHostChar
  exact List.all_iff_forall_prop.1 (by decide)

theorem IsProper.text_ne_nil (proper : host.IsProper) : host.text ≠ [] := by
  cases proper with
  | domain some => exact some
  | ipv4 => exact IPv4.text_ne_nil _
  | ipv6 => exact List.cons_ne_nil _ _

theorem IsProper.isHostChar (proper : host.IsProper) : ∀ c ∈ host.text, IsHostChar c := by
  have signs : ∀ c ∈ [':', '.', '[', ']'], IsHostChar c := by
    unfold IsHostChar
    exact List.all_iff_forall_prop.1 (by decide)
  intro c hc
  cases proper with
  | domain _ ascii allowed => exact isHostChar_of_allowed (ascii c hc) (allowed c hc)
  | ipv4 =>
    rcases IPv4.mem_text hc with rfl | digit
    · exact signs '.' (by decide)
    · exact (isHostChar_of_hexDigit c digit).1
  | ipv6 =>
    simp only [text, List.cons_append, List.mem_cons, List.mem_append, List.not_mem_nil, or_false] at hc
    rcases hc with rfl | inside | rfl
    · exact signs '[' (by decide)
    · rcases IPv6.mem_text inside with rfl | digit
      · exact signs ':' (by decide)
      · exact (isHostChar_of_hexDigit c digit).1
    · exact signs ']' (by decide)

theorem IsSettled.lower (proper : host.IsProper) (settled : host.IsSettled) : ∀ c ∈ host.text, c.isUpper = false := by
  intro c hc
  cases proper with
  | @domain name => exact Domain.lower_of_toAscii_self (settled name rfl) c hc
  | ipv4 =>
    rcases IPv4.mem_text hc with rfl | digit
    · rfl
    · exact (isHostChar_of_hexDigit c digit).2
  | ipv6 =>
    simp only [text, List.cons_append, List.mem_cons, List.mem_append, List.not_mem_nil, or_false] at hc
    rcases hc with rfl | inside | rfl
    · rfl
    · rcases IPv6.mem_text inside with rfl | digit
      · rfl
      · exact (isHostChar_of_hexDigit c digit).2
    · rfl

theorem toAscii_ipv4 (address : Nat) : Domain.toAscii (IPv4.text address) = some (IPv4.text address) := by
  have digits : ∀ c ∈ lowerHexDigits, c.toNat < 128 ∧ c.toLower = c ∧ Domain.isForbidden c = false ∧ c ≠ 'x' :=
    List.all_iff_forall_prop.1 (by decide)
  have chars : ∀ c ∈ IPv4.text address, c.toNat < 128 ∧ c.toLower = c ∧ Domain.isForbidden c = false ∧ c ≠ 'x' := by
    intro c hc
    rcases IPv4.mem_text hc with rfl | digit
    · decide
    · exact digits c digit
  refine Domain.toAscii_plain (fun c hc => (chars c hc).1) (fun c hc => (chars c hc).2.1)
    (fun c hc => (chars c hc).2.2.1) fun label hl => ?_
  rw [Bool.eq_false_iff]
  intro marked
  obtain ⟨rest, rfl⟩ := List.isPrefixOf_iff_prefix.1 marked
  exact (chars 'x' (Text.mem_of_mem_splitOn hl (List.mem_append_left _ (by decide)))).2.2.2 rfl

theorem IsProper.percentDecode_text (proper : host.IsProper) : Text.percentDecode host.text = .ok host.text :=
  Text.percentDecode_plain fun percent => (proper.isHostChar '%' percent).2.2 (by decide)

theorem IsProper.parse_text (proper : host.IsProper) (settled : host.IsSettled) : parse host.text = .ok host := by
  have decoded := proper.percentDecode_text
  cases proper with
  | @domain name some _ allowed other =>
    have unbracketed : name.head? ≠ .some '[' := fun first =>
      absurd (allowed '[' (List.mem_of_mem_head? first)) (by decide)
    refine (parse_named unbracketed).trans (named_eq_ok_iff.2 ⟨name, ?_, some, ?_⟩)
    · rw [show Text.percentDecode name = .ok name from decoded]
      exact settled name rfl
    · rw [other]
      rfl
  | @ipv4 address fits =>
    have unbracketed : (IPv4.text address).head? ≠ .some '[' := by
      intro first
      rcases IPv4.mem_text (List.mem_of_mem_head? first) with same | digit
      · cases same
      · exact absurd digit (by decide)
    refine (parse_named unbracketed).trans (named_eq_ok_iff.2 ⟨IPv4.text address, ?_, ?_, ?_⟩)
    · rw [show Text.percentDecode (IPv4.text address) = .ok (IPv4.text address) from decoded]
      exact toAscii_ipv4 address
    · exact IPv4.text_ne_nil address
    · rw [if_pos (IPv4.endsInNumber_text address)]
      exact ⟨address, IPv4.parse?_text fits, rfl⟩
  | @ipv6 groups address =>
    refine bracketed_eq_ok_iff.2 ⟨?_, groups, ?_, rfl⟩
    · exact List.getLast?_concat
    · have inside : (('[' :: IPv6.text groups ++ [']']).drop 1).dropLast = IPv6.text groups := List.dropLast_concat
      rw [text, inside]
      exact IPv6.parse?_text address

end OriginRegistry.Host
