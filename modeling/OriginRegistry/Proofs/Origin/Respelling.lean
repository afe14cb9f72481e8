import OriginRegistry.Proofs.Origin.LetterCase
import OriginRegistry.Proofs.Origin.NormalForm

set_option autoImplicit false

namespace OriginRegistry

open Address

variable {scheme scheme' : Scheme} {host host' : Host} {port port' : Option Nat}

def Address.SameOrigin (a b : Address) : Prop :=
  a.scheme = b.scheme ∧ a.host.map Host.text = b.host.map Host.text ∧ a.effectivePort? = b.effectivePort?

theorem portText_inj (same : portText port = portText port') : port = port' := by
  rw [← portOf_portText port, same, portOf_portText]

theorem Origin.render_inj (web : scheme.hasWebOrigin = true) (web' : scheme'.hasWebOrigin = true) (proper : host.IsProper)
    (proper' : host'.IsProper) (same : Origin.render scheme host port = Origin.render scheme' host' port') :
    scheme = scheme' ∧ host.text = host'.text ∧ port = port' := by
  have colonStop (rest : List Char) : ∀ c ∈ (':' :: rest).head?, isSchemeChar c = false := by
    rintro c ⟨⟩
    decide
  simp only [Origin.render_eq, List.append_assoc, List.cons_append, List.nil_append] at same
  obtain ⟨names, behind⟩ := Text.append_stop_inj same (Scheme.isSchemeName_name web).2 (colonStop _)
    (Scheme.isSchemeName_name web').2 (colonStop _)
  have authority : host.text ++ portText port = host'.text ++ portText port' := by simpa using behind
  have split := congrArg (splitHost false) authority
  rw [proper.splitHost_text (head?_portText port), proper'.splitHost_text (head?_portText port')] at split
  obtain ⟨hosts, ports⟩ := Prod.mk.inj split
  refine ⟨?_, hosts, portText_inj ports⟩
  rw [← Scheme.ofName_name web, names, Scheme.ofName_name web']

theorem Scheme.namedPort?_eq_iff_effective :
    scheme.namedPort? port = scheme.namedPort? port' ↔
      (scheme.namedPort? port).or scheme.defaultPort? = (scheme.namedPort? port').or scheme.defaultPort? := by
  constructor
  · intro same
    rw [same]
  · intro same
    cases left : scheme.namedPort? port with
    | none =>
      cases right : scheme.namedPort? port' with
      | none => rfl
      | some n =>
        rw [left, right] at same
        exact absurd same (Scheme.namedPort?_eq_some_iff.1 right).2
    | some m =>
      cases right : scheme.namedPort? port' with
      | none =>
        rw [left, right] at same
        exact absurd same.symm (Scheme.namedPort?_eq_some_iff.1 left).2
      | some n =>
        rw [left, right] at same
        exact same

theorem Origin.eq_iff_sameOrigin {text other : String} {origin origin' : Origin} (read : Origin.parse text = .ok origin)
    (read' : Origin.parse other = .ok origin') {a b : Address} (parsed : Address.parse (Text.trim text.toList) = .ok a)
    (parsed' : Address.parse (Text.trim other.toList) = .ok b) : origin = origin' ↔ a.SameOrigin b := by
  obtain ⟨s, same, scheme, host, reads, normal⟩ := Spelling.parse_eq_ok_iff_denotes.1 read
  obtain ⟨s', same', scheme', host', reads', normal'⟩ := Spelling.parse_eq_ok_iff_denotes.1 read'
  obtain rfl := Except.ok.inj ((same ▸ reads.parse).symm.trans parsed)
  obtain rfl := Except.ok.inj ((same' ▸ reads'.parse).symm.trans parsed')
  have texts : origin = origin' ↔ origin.text.toList = origin'.text.toList := by
    cases origin
    cases origin'
    simp [String.toList_inj]
  rw [texts, normal, normal']
  constructor
  · intro rendered
    obtain ⟨rfl, hosts, ports⟩ := Origin.render_inj reads.web reads'.web (Host.isProper_of_parse reads.authority.host)
      (Host.isProper_of_parse reads'.authority.host) rendered
    exact ⟨rfl, congrArg some hosts, Scheme.namedPort?_eq_iff_effective.1 ports⟩
  · rintro ⟨schemes, hosts, ports⟩
    obtain rfl : scheme = scheme' := schemes
    have named := Scheme.namedPort?_eq_iff_effective.2 ports
    rw [Origin.render_eq, Origin.render_eq, Option.some.inj hosts, named]

namespace Origin

variable {text : String} {origin : Origin}

theorem trim_ne_nil_of_parse (read : parse text = .ok origin) : Text.trim text.toList ≠ [] := by
  intro empty
  rw [parse, empty] at read
  cases read

theorem parse_padded (read : parse text = .ok origin) {before after : String}
    (blank : ∀ c ∈ before.toList ++ after.toList, Text.isBlank c = true) :
    parse (before ++ text ++ after) = .ok origin := by
  obtain ⟨blankBefore, blankAfter⟩ := List.forall_mem_append.1 blank
  have trimmed : Text.trim (before ++ text ++ after).toList = Text.trim text.toList := by
    rw [String.toList_append, String.toList_append]
    exact Text.trim_padded (parse_eq_ok_iff.1 read).1 (trim_ne_nil_of_parse read) blankBefore blankAfter
  rw [parse_eq_ok_iff] at read ⊢
  rwa [trimmed]

end Origin

namespace Spelling

variable {s : Spelling}

/-- With nothing trimmed behind it a spelling can be continued. -/
theorem Reads.after_eq_nil (h : s.Reads scheme host) (ends : ∀ c ∈ s.text.getLast?, isPadding c = false) : s.after = [] :=
  Text.eq_nil_of_ends h.after ends

def addSlash (s : Spelling) : Spelling := { s with path := s.path ++ ['/'] }

theorem core_addSlash (s : Spelling) : s.addSlash.core = s.core ++ ['/'] := by simp [addSlash, core, rest]

theorem text_addSlash (none : s.after = []) : s.addSlash.text = s.text ++ ['/'] := by
  have after : s.addSlash.after = [] := none
  rw [text, text, core_addSlash, after, none, List.append_nil, List.append_nil, List.append_assoc]
  rfl

theorem Reads.addSlash (h : s.Reads scheme host)
    (ends : ∀ c ∈ s.text.getLast?, isPadding c = false ∧ isSlash true c = false) : s.addSlash.Reads scheme host := by
  have none := h.after_eq_nil fun c hc => (ends c hc).1
  have last : ∀ c ∈ s.path.getLast?, isSlash true c = false := by
    have whole : s.text = s.before ++ s.scheme ++ ':' :: (s.slashes ++ s.credentials ++ s.host ++ s.port) ++ s.path := by
      simp [text, core, rest, none]
    intro c hc
    have some : s.path ≠ [] := List.ne_nil_of_mem (List.mem_of_mem_getLast? hc)
    rw [whole, List.getLast?_append_of_ne_nil _ some] at ends
    exact (ends c hc).2
  exact
    { h with
      unblank := by
        rw [text_addSlash none]
        exact List.forall_mem_append.2 ⟨h.unblank, by simp [Text.isBlank]⟩
      ends := by
        rw [core_addSlash, List.getLast?_concat]
        simp [isPadding]
      root := h.root.slash last }

end Spelling

theorem Origin.parse_slashed {text : String} {origin : Origin} (read : Origin.parse text = .ok origin)
    (ends : ∀ c ∈ text.toList.getLast?, Text.isBlank c = false ∧ isPadding c = false ∧ isSlash true c = false) :
    Origin.parse (text ++ "/") = .ok origin := by
  obtain ⟨s, same, scheme, host, reads, normal⟩ := Spelling.parse_eq_ok_iff_denotes.1 read
  have unblank := (Origin.parse_eq_ok_iff.1 read).1
  have some := Origin.trim_ne_nil_of_parse read
  have trimmed : Text.trim (text ++ "/").toList = s.text ++ ['/'] := by
    rw [String.toList_append, same]
    exact Text.trim_append unblank some (fun c hc => (ends c hc).1) (by simp [Text.isBlank])
  have last : ∀ c ∈ s.text.getLast?, isPadding c = false ∧ isSlash true c = false := by
    rw [same, Text.getLast?_trim some fun c hc => (ends c hc).1]
    exact fun c hc => (ends c hc).2
  have none := reads.after_eq_nil fun c hc => (last c hc).1
  exact Spelling.parse_eq_ok_iff_denotes.2
    ⟨s.addSlash, (Spelling.text_addSlash none).trans trimmed.symm, scheme, host, reads.addSlash last, normal⟩

namespace Spelling

variable {s : Spelling}

theorem Reads.visible_authority (h : s.Reads scheme host) : ∀ c ∈ (s.host ++ s.port).getLast?, isPadding c = false := by
  intro c hc
  rcases h.port_cases with port | ⟨digits, port⟩
  · rw [port, List.append_nil] at hc
    exact decide_eq_false (Nat.not_le_of_lt (Host.visible_of_parse h.authority.host c hc))
  · have some : s.port ≠ [] := by simp [port]
    rw [List.getLast?_append_of_ne_nil _ some] at hc
    have decimal := h.authority.digits
    by_contra padding
    obtain ⟨_, _, noColon, noDigit⟩ := not_special_of_isPadding (by simpa using padding)
    rw [port] at hc decimal
    rcases List.mem_cons.1 (List.mem_of_mem_getLast? hc) with same | digit
    · exact noColon same
    · rw [decimal c digit] at noDigit
      cases noDigit

theorem Reads.visible_before_slash (h : s.Reads scheme host) {front : List Char} {c : Char}
    (ends : s.core = front ++ [c, '/']) : isPadding c = false := by
  obtain ⟨lead, parts⟩ : ∃ lead, s.core = lead ++ (s.host ++ s.port) ++ s.path :=
    ⟨s.scheme ++ ':' :: (s.slashes ++ s.credentials), by simp [core, rest]⟩
  have some : s.host ++ s.port ≠ [] := List.append_ne_nil_of_left_ne_nil h.authority.name_ne_nil _
  have split : front ++ [c, '/'] = front ++ [c] ++ ['/'] := by simp
  rw [ends, split] at parts
  rcases List.eq_nil_or_concat' s.path with path | ⟨path, x, path_eq⟩
  · have last := congrArg List.getLast? parts
    rw [path, List.append_nil, List.getLast?_concat, List.getLast?_append_of_ne_nil _ some] at last
    have inside := h.authority.inside '/' (List.mem_of_mem_getLast? last.symm)
    cases inside
  · rw [path_eq, ← List.append_assoc (lead ++ (s.host ++ s.port))] at parts
    obtain ⟨before, rfl⟩ := List.append_singleton_inj.1 parts
    rcases List.eq_nil_or_concat' path with rfl | ⟨path, y, rfl⟩
    · have last := congrArg List.getLast? before
      rw [List.append_nil, List.getLast?_concat, List.getLast?_append_of_ne_nil _ some] at last
      exact h.visible_authority c last.symm
    · rw [← List.append_assoc (lead ++ (s.host ++ s.port))] at before
      obtain ⟨_, rfl⟩ := List.append_singleton_inj.1 before
      have root := h.root
      rw [path_eq, List.append_assoc] at root
      exact root.visible_before_slash

end Spelling

/-- What is trimmed at the end of a text is part of it once a slash stands behind it, and makes it no origin. -/
theorem Origin.parse_slashed_error {text : String} {origin : Origin} (read : Origin.parse text = .ok origin) {c : Char}
    (last : text.toList.getLast? = some c) (hidden : Text.isBlank c = true ∨ isPadding c = true) :
    ∃ refusal, Origin.parse (text ++ "/") = .error refusal := by
  have nonempty := Origin.trim_ne_nil_of_parse read
  have slash : ∀ p : Char → Bool, p '/' = false → ∀ c ∈ ['/'].getLast?, p c = false := by
    rintro p plain c ⟨⟩
    exact plain
  cases again : Origin.parse (text ++ "/") with
  | error refusal => exact ⟨refusal, rfl⟩
  | ok other =>
    exfalso
    by_cases blank : Text.isBlank c = true
    · obtain ⟨front, kept⟩ := Text.trimEnds_behind nonempty last (List.cons_ne_nil _ _) (slash Text.isBlank rfl)
      have unblank := (Origin.parse_eq_ok_iff.1 again).1
      have trimmed : Text.trim (text ++ "/").toList = front ++ [c, '/'] := by
        rw [String.toList_append, ← kept]
        rfl
      have visible := unblank c (trimmed ▸ List.mem_append_right _ List.mem_cons_self)
      rw [blank] at visible
      cases visible
    · have ends : ∀ x ∈ text.toList.getLast?, Text.isBlank x = false := by
        rw [last]
        rintro x ⟨⟩
        simpa using blank
      obtain ⟨s, same, scheme, host, reads, _⟩ := Spelling.parse_eq_ok_iff_denotes.1 read
      obtain ⟨s', same', scheme', host', reads', _⟩ := Spelling.parse_eq_ok_iff_denotes.1 again
      have longer : s'.text = s.text ++ ['/'] := by
        rw [same', same, String.toList_append]
        exact Text.trim_append (Origin.parse_eq_ok_iff.1 read).1 nonempty ends (by simp [Text.isBlank])
      have lastRead : s.text.getLast? = some c := by rw [same, Text.getLast?_trim nonempty ends, last]
      have trimmed : Text.trimEnds isPadding s.text ≠ [] := reads.trimmed ▸ s.core_ne_nil
      obtain ⟨front, kept⟩ := Text.trimEnds_behind trimmed lastRead (List.cons_ne_nil _ _) (slash isPadding rfl)
      have core : s'.core = front ++ [c, '/'] := by rw [← reads'.trimmed, longer, kept]
      have visible := reads'.visible_before_slash core
      rw [hidden.resolve_left blank] at visible
      cases visible

namespace Spelling

variable {s : Spelling}

/-- In a documented text that no control interrupts and that ends in no slash, the reader finds the parts that are
    documented. -/
theorem Reads.documented_parts (h : s.Reads scheme host) {front name colon : List Char}
    (documented : IsDocumentedAs s.text front name colon []) (visible : ∀ c ∈ name, isPadding c = false) :
    s.scheme = front ∧ s.host = name ∧ s.port = colon ∧ s.path = [] ∧ s.after = [] := by
  obtain ⟨_, schemes, _⟩ := h.documented_front documented
  have behind := h.documented_behind documented
  rw [List.append_nil] at behind
  have inside : ∀ c ∈ s.path ++ s.after, endsAuthority true c = false ∧ isPadding c = false := by
    intro c hc
    have member : c ∈ name ++ colon := behind ▸ List.mem_append_right _ hc
    refine ⟨(documented.authority_chars c member).1, ?_⟩
    rcases List.mem_append.1 member with hostChar | portChar
    · exact visible c hostChar
    · rcases documented.colon_chars c portChar with rfl | digit
      · decide
      · exact not_isPadding_of_schemeChar (by simp [isSchemeChar, Char.isAlphanum, digit])
  have path : s.path = [] := by
    cases path : s.path with
    | nil => rfl
    | cons c path =>
      have slash := h.root.starts c (by rw [path]; rfl)
      have inner := (inside c (by simp [path])).1
      rw [endsAuthority, slash] at inner
      cases inner
  have after : s.after = [] := by
    refine List.eq_nil_iff_forall_not_mem.2 fun c hc => ?_
    have none := (inside c (List.mem_append_right _ hc)).2
    rw [h.after c hc] at none
    cases none
  rw [path, after, List.append_nil, List.append_nil] at behind
  have split := h.authority.split
  rw [behind, documented.split] at split
  obtain ⟨same, ports⟩ := Prod.mk.inj split
  exact ⟨schemes, same.symm, ports.symm, path, after⟩

/-- A documented text up to its host. -/
structure EndsInHost (cs front name : List Char) : Prop where
  documented : IsDocumentedAs cs front name [] []
  visible : ∀ c ∈ name, Text.isBlank c = false ∧ isPadding c = false

variable {cs front name digits : List Char}

theorem Reads.closed (h : s.Reads scheme host) (form : EndsInHost s.text front name) (bracket : '[' ∈ name) :
    name.getLast? = some ']' := by
  obtain ⟨_, rfl, _⟩ := h.documented_parts form.documented fun c hc => (form.visible c hc).2
  exact Host.closed_of_parse h.authority.host bracket

theorem EndsInHost.with_port (form : EndsInHost cs front name) (closed : '[' ∈ name → name.getLast? = some ']')
    (some : digits ≠ []) (decimal : ∀ c ∈ digits, c.isDigit = true) :
    IsDocumentedAs (cs ++ ':' :: digits) front name (':' :: digits) [] := by
  have documented := form.documented
  have split := documented.split
  have closed : name.getLast? = Option.some ']' ∨ false = false ∧ '[' ∉ name := by
    by_cases bracket : '[' ∈ name
    · exact .inl (closed bracket)
    · exact .inr ⟨rfl, bracket⟩
  rw [List.append_nil] at split
  exact
    { documented with
      parts := by simp [documented.parts]
      split := splitHost_closed (by rw [split]) closed (by simp)
      port := .inr ⟨digits, rfl, some, decimal⟩ }

theorem EndsInHost.unblank (form : EndsInHost cs front name) : ∀ c ∈ cs, Text.isBlank c = false := by
  rw [form.documented.parts, List.append_nil, List.append_nil]
  have slashes : ∀ c ∈ ['/', '/'], Text.isBlank c = false := List.all_iff_forall_prop.1 (by decide)
  refine List.forall_mem_append.2
    ⟨fun c hc => ?_, List.forall_mem_cons.2 ⟨by decide, List.forall_mem_append.2 ⟨slashes, ?_⟩⟩⟩
  · exact not_isBlank_of_visible (visible_of_schemeChar (form.documented.scheme.2 c hc))
  · exact fun c hc => (form.visible c hc).1

theorem EndsInHost.unblank_port (form : EndsInHost cs front name) (decimal : ∀ c ∈ digits, c.isDigit = true) :
    ∀ c ∈ cs ++ ':' :: digits, Text.isBlank c = false := by
  refine List.forall_mem_append.2 ⟨form.unblank, List.forall_mem_cons.2 ⟨by decide, fun c hc => ?_⟩⟩
  exact not_isBlank_of_visible (visible_of_isDigit (decimal c hc))

def withPort (s : Spelling) (digits : List Char) : Spelling := { s with port := ':' :: digits }

theorem Reads.text_withPort (h : s.Reads scheme host) (form : EndsInHost s.text front name) :
    (s.withPort digits).text = s.text ++ ':' :: digits := by
  obtain ⟨_, _, port, path, after⟩ := h.documented_parts form.documented fun c hc => (form.visible c hc).2
  simp [withPort, text, core, rest, port, path, after]

theorem Reads.withPort (h : s.Reads scheme host) (form : EndsInHost s.text front name) (some : digits ≠ [])
    (decimal : ∀ c ∈ digits, c.isDigit = true) (small : portFrom 0 digits < 65536) :
    (s.withPort digits).Reads scheme host := by
  obtain ⟨_, hosts, _, path, after⟩ := h.documented_parts form.documented fun c hc => (form.visible c hc).2
  have documented := form.with_port (h.closed form) some decimal
  have text_eq : (s.withPort digits).text = s.text ++ ':' :: digits := h.text_withPort form
  have authority : IsAuthority s.credentials s.host (':' :: digits) host :=
    { h.authority with
      inside := by
        rw [hosts]
        exact fun c hc => (documented.authority_chars c hc).1
      unmarked := by
        rw [hosts]
        exact fun marked => (documented.authority_chars '@' marked).2 rfl
      split := by
        rw [hosts]
        exact documented.split
      digits := decimal
      small := small }
  exact
    { h with
      unblank := by
        rw [text_eq]
        exact form.unblank_port decimal
      ends := by
        have core_eq : (s.withPort digits).core =
            s.scheme ++ ':' :: (s.slashes ++ s.credentials ++ s.host ++ [':']) ++ digits := by
          simp [core, rest, Spelling.withPort, path]
        rw [core_eq, List.getLast?_append_of_ne_nil _ some]
        intro c hc
        have visible := visible_of_isDigit (decimal c (List.mem_of_mem_getLast? hc))
        exact decide_eq_false (Nat.not_le_of_lt visible.1)
      authority := authority }

theorem Reads.denotes_port_iff (h : s.Reads scheme host) (form : EndsInHost s.text front name) (some : digits ≠ [])
    (decimal : ∀ c ∈ digits, c.isDigit = true) (other : Origin) :
    (∃ s' : Spelling, s'.text = s.text ++ ':' :: digits ∧ s'.Denotes other) ↔
      portFrom 0 digits < 65536 ∧
        other.text.toList = Origin.render scheme host (scheme.namedPort? (.some (portFrom 0 digits))) := by
  have written : portOf digits = .some (portFrom 0 digits) := if_neg some
  constructor
  · rintro ⟨s', same, scheme', host', reads', normal⟩
    have documented := same ▸ form.with_port (h.closed form) some decimal
    obtain ⟨schemes, hosts, port, _, _⟩ := h.documented_parts form.documented fun c hc => (form.visible c hc).2
    obtain ⟨schemes', hosts', port', _, _⟩ := reads'.documented_parts documented fun c hc => (form.visible c hc).2
    have digits_eq : s'.port.drop 1 = digits := congrArg (List.drop 1) port'
    obtain rfl : scheme = scheme' := by rw [← h.known, ← reads'.known, schemes, schemes']
    obtain rfl : host = host' := by
      have read := h.authority.host
      rw [hosts, ← hosts', reads'.authority.host] at read
      exact (Except.ok.inj read).symm
    rw [digits_eq, written] at normal
    exact ⟨digits_eq ▸ reads'.authority.small, normal⟩
  · rintro ⟨small, normal⟩
    refine ⟨s.withPort digits, h.text_withPort form, scheme, host, h.withPort form some decimal small, ?_⟩
    rw [normal, ← written]
    rfl

end Spelling

namespace Origin

open Spelling

variable {text : String} {origin : Origin} {front name digits : List Char}

theorem parse_with_port (read : parse text = .ok origin) {a : Address}
    (parsed : Address.parse (Text.trim text.toList) = .ok a) (form : EndsInHost text.toList front name) (some : digits ≠ [])
    (decimal : ∀ c ∈ digits, c.isDigit = true) :
    (portFrom 0 digits < 65536 → ∃ other, parse (text ++ ":" ++ String.ofList digits) = .ok other) ∧
      (parse (text ++ ":" ++ String.ofList digits) = .ok origin ↔ a.scheme.defaultPort? = .some (portFrom 0 digits)) := by
  obtain ⟨s, same, scheme, host, reads, normal⟩ := parse_eq_ok_iff_denotes.1 read
  obtain rfl := Except.ok.inj ((same ▸ reads.parse).symm.trans parsed)
  have own : Text.trim text.toList = text.toList := Text.trim_of_unblank form.unblank (by simp [form.documented.parts])
  rw [own] at same
  have longer : (text ++ ":" ++ String.ofList digits).toList = text.toList ++ ':' :: digits := by
    simp [String.toList_append]
  have trimmed : Text.trim (text ++ ":" ++ String.ofList digits).toList = s.text ++ ':' :: digits := by
    rw [longer, Text.trim_of_unblank (form.unblank_port decimal) (by simp), same]
  obtain ⟨_, _, port, _, _⟩ := reads.documented_parts (same ▸ form.documented) fun c hc => (form.visible c hc).2
  have portless : scheme.namedPort? (portOf (s.port.drop 1)) = none := by
    rw [port]
    exact ite_self none
  rw [portless] at normal
  simp only [parse_eq_ok_iff_denotes, trimmed, reads.denotes_port_iff (same ▸ form) some decimal]
  refine ⟨fun small => ⟨⟨String.ofList _⟩, small, String.toList_ofList⟩, ?_, fun default => ?_⟩
  · rintro ⟨_, rendered⟩
    have proper := Host.isProper_of_parse reads.authority.host
    obtain ⟨_, _, unnamed⟩ := render_inj reads.web reads.web proper proper (normal.symm.trans rendered)
    by_contra other
    have named : scheme.namedPort? (.some (portFrom 0 digits)) = .some (portFrom 0 digits) :=
      Scheme.namedPort?_eq_some_iff.2 ⟨rfl, other⟩
    rw [named] at unnamed
    cases unnamed
  · have unnamed : scheme.namedPort? (.some (portFrom 0 digits)) = none := if_pos default.symm
    rw [unnamed]
    exact ⟨Scheme.defaultPort?_lt default, normal⟩

/-- The spellings of one origin are those whose addresses agree. Among them are all that differ in the case of letters,
    in white space around them, in a slash behind what is neither slash nor trimmed, or in the default port behind a
    host; no other port behind the host makes one, and a slash behind what is trimmed makes none. -/
theorem respelled (read : parse text = .ok origin) :
    ∃ a, Address.parse (Text.trim text.toList) = .ok a ∧
      (∀ other origin', parse other = .ok origin' →
        ∃ b, Address.parse (Text.trim other.toList) = .ok b ∧ (origin = origin' ↔ a.SameOrigin b)) ∧
      (∀ other : String, lowered other.toList = lowered text.toList → parse other = .ok origin) ∧
      (∀ before after : String, (∀ c ∈ before.toList ++ after.toList, Text.isBlank c = true) →
        parse (before ++ text ++ after) = .ok origin) ∧
      ((∀ c ∈ text.toList.getLast?, Text.isBlank c = false ∧ isPadding c = false ∧ isSlash true c = false) →
        parse (text ++ "/") = .ok origin) ∧
      (∀ c ∈ text.toList.getLast?, Text.isBlank c = true ∨ isPadding c = true →
        ∃ refusal, parse (text ++ "/") = .error refusal) ∧
      ∀ front name digits, EndsInHost text.toList front name → digits ≠ [] → (∀ c ∈ digits, c.isDigit = true) →
        (portFrom 0 digits < 65536 → ∃ other, parse (text ++ ":" ++ String.ofList digits) = .ok other) ∧
          (parse (text ++ ":" ++ String.ofList digits) = .ok origin ↔
            a.scheme.defaultPort? = .some (portFrom 0 digits)) := by
  obtain ⟨_, a, parsed, _⟩ := parse_eq_ok_iff.1 read
  refine ⟨a, parsed, fun other origin' read' => ?_, fun other same => parse_recased same read,
    fun before after => parse_padded read, parse_slashed read, fun c => parse_slashed_error read,
    fun front name digits form => parse_with_port read parsed form⟩
  obtain ⟨_, b, parsed', _⟩ := parse_eq_ok_iff.1 read'
  exact ⟨b, parsed', eq_iff_sameOrigin read read' parsed parsed'⟩

theorem respelled_foo :
    parse "HTTP://Foo.COM" = .ok ⟨"http://foo.com"⟩ ∧
      parse ("\u00a0" ++ "http://foo.com" ++ "\n") = .ok ⟨"http://foo.com"⟩ ∧
      parse ("http://foo.com" ++ "/") = .ok ⟨"http://foo.com"⟩ ∧
      (∃ refusal, parse ("http://foo.com " ++ "/") = .error refusal) ∧
      parse ("http://foo.com" ++ ":" ++ String.ofList ['0', '8', '0']) = .ok ⟨"http://foo.com"⟩ ∧
      parse ("http://foo.com" ++ ":" ++ String.ofList ['4', '4', '3']) ≠ .ok ⟨"http://foo.com"⟩ := by
  have read : parse "http://foo.com" = .ok ⟨"http://foo.com"⟩ := rfl
  have found : Address.parse (Text.trim "http://foo.com".toList) = .ok (bare .http (.domain "foo.com".toList) none) := rfl
  have documented : IsDocumentedAs "http://foo.com".toList ['h', 't', 't', 'p'] ['f', 'o', 'o', '.', 'c', 'o', 'm'] [] [] :=
    { parts := rfl
      scheme := ⟨⟨'h', rfl, rfl⟩, List.all_eq_true.1 rfl⟩
      some := List.cons_ne_nil _ _
      host := List.all_iff_forall_prop.1 (by decide)
      split := rfl
      port := .inl rfl
      slash := .inl rfl }
  have form : EndsInHost "http://foo.com".toList ['h', 't', 't', 'p'] ['f', 'o', 'o', '.', 'c', 'o', 'm'] :=
    ⟨documented, List.all_iff_forall_prop.1 (by decide)⟩
  obtain ⟨a, parsed, _, recased, padded, slashed, _, ported⟩ := respelled read
  obtain rfl := Except.ok.inj (found.symm.trans parsed)
  have blank : ∀ c ∈ "\u00a0".toList ++ "\n".toList, Text.isBlank c = true := List.all_eq_true.1 rfl
  have ends : ∀ c ∈ "http://foo.com".toList.getLast?,
      Text.isBlank c = false ∧ isPadding c = false ∧ isSlash true c = false := by
    rintro c ⟨⟩
    decide
  have default := ported _ _ ['0', '8', '0'] form (List.cons_ne_nil _ _) (List.all_eq_true.1 rfl)
  have other := ported _ _ ['4', '4', '3'] form (List.cons_ne_nil _ _) (List.all_eq_true.1 rfl)
  have spaced : parse "http://foo.com " = .ok ⟨"http://foo.com"⟩ := rfl
  obtain ⟨_, _, _, _, _, _, refused, _⟩ := respelled spaced
  refine ⟨recased _ (by decide), padded _ _ blank, slashed ends, refused ' ' rfl (.inl rfl), default.2.2 rfl, ?_⟩
  exact fun same => absurd (other.2.1 same) (by decide)

/-- White space and controls do not count at the end of a text. Behind them a slash or a port makes another text, of
    which they are a part. -/
theorem slash_behind_blank :
    parse "http://foo.com " = .ok ⟨"http://foo.com"⟩ ∧ "http://foo.com ".toList.getLast? ≠ some '/' ∧
      "http://foo.com ".toList.getLast? ≠ some '\\' ∧
      parse ("http://foo.com " ++ "/") = .error (.malformed "http://foo.com /" .whitespace) ∧
      parse "http://foo.com\x01" = .ok ⟨"http://foo.com"⟩ ∧
      parse ("http://foo.com\x01" ++ "/") = .error (.malformed "http://foo.com\x01/" (.address (.host .invalidDomain))) ∧
      parse ("http://foo.com\x01" ++ ":80") =
        .error (.malformed "http://foo.com\x01:80" (.address (.host .invalidDomain))) :=
  ⟨rfl, by decide, by decide, rfl, rfl, rfl, rfl⟩

end Origin

end OriginRegistry
