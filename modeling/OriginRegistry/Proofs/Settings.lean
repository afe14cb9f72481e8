import Mathlib.Data.List.Forall2
import OriginRegistry.Proofs.Action
import OriginRegistry.Proofs.Text.Basic
import OriginRegistry.Settings

set_option autoImplicit false

namespace OriginRegistry

namespace LogFormat

def Spells (cs : List Char) (name : String) : Prop := List.Forall₂ (fun c d => c = d ∨ c = d.toUpper) cs name.toList

theorem eq_or_eq_toUpper (c : Char) : c = c.toLower ∨ c = c.toLower.toUpper := by
  by_cases ascii : c.toNat < 128
  · have found := Text.forall_ascii (p := fun c => c == c.toLower || c == c.toLower.toUpper) (by decide) ascii
    simpa using found
  · exact .inl (Text.toLower_beyond (Nat.le_of_not_lt ascii)).symm

theorem map_toLower_eq_iff {cs letters : List Char} (small : ∀ d ∈ letters, d.toLower = d ∧ d.toUpper.toLower = d) :
    cs.map Char.toLower = letters ↔ List.Forall₂ (fun c d => c = d ∨ c = d.toUpper) cs letters := by
  rw [← List.forall₂_eq_eq_eq, List.forall₂_map_left_iff]
  induction letters generalizing cs with
  | nil => simp
  | cons d letters ih =>
    rw [List.forall_mem_cons] at small
    cases cs with
    | nil => simp
    | cons c cs =>
      rw [List.forall₂_cons, List.forall₂_cons, ih small.2]
      refine and_congr_left fun _ => ?_
      constructor
      · rintro rfl
        exact eq_or_eq_toUpper c
      · rintro (rfl | rfl)
        · exact small.1.1
        · exact small.1.2

theorem parse_eq_ok_iff {value : String} {f : LogFormat} :
    parse value = .ok f ↔ Spells (Text.trim value.toList) f.name := by
  have small : ∀ d ∈ f.name.toList, d.toLower = d ∧ d.toUpper.toLower = d := by
    cases f <;> exact List.all_iff_forall_prop.1 (by decide)
  have named : parse value = .ok f ↔ lowerCase (Text.trimmed value) = f.name := by
    unfold parse
    by_cases text : lowerCase (Text.trimmed value) = "text"
    · simp only [text, ↓reduceIte]
      cases f <;> simp [name]
    · by_cases json : lowerCase (Text.trimmed value) = "json"
      · simp only [json]
        cases f <;> simp [name]
      · simp only [text, json, ↓reduceIte]
        cases f <;> simp [name, text, json]
  rw [named, Spells, ← map_toLower_eq_iff small, lowerCase, Text.trimmed, String.toList_ofList,
    ← String.toList_inj, String.toList_ofList]

end LogFormat

namespace Settings

/-- Digits, after a plus sign perhaps, that make a number. -/
def Numeral (cs : List Char) (n : Nat) : Prop :=
  ∃ digits, (cs = digits ∨ cs = '+' :: digits) ∧ digits ≠ [] ∧ (∀ c ∈ digits, Text.isDigit c = true) ∧
    Nat.ofDigitChars 10 digits 0 = n

/-- The digits of a number are read as it, as long as it has no more than 32 bits. -/
theorem readDigits_eq_ok_iff {cs : List Char} {n m : Nat} (small : n < 0x100000000) :
    readDigits n cs = .ok m ↔
      (∀ c ∈ cs, Text.isDigit c = true) ∧ Nat.ofDigitChars 10 cs n = m ∧ m < 0x100000000 := by
  induction cs generalizing n with
  | nil =>
    constructor
    · rintro ⟨⟩
      exact ⟨nofun, rfl, small⟩
    · rintro ⟨_, rfl, _⟩
      rfl
  | cons c cs ih =>
    rw [List.forall_mem_cons]
    cases digit : Text.isDigit c with
    | false => simp [readDigits, digit]
    | true =>
      have step : Nat.ofDigitChars 10 (c :: cs) n = Nat.ofDigitChars 10 cs (10 * n + Text.digitValue c) := rfl
      by_cases large : 0x100000000 ≤ 10 * n + Text.digitValue c
      · have more := Text.le_ofDigitChars cs (10 * n + Text.digitValue c)
        simp only [readDigits, digit, ↓reduceIte, if_pos large]
        refine iff_of_false nofun ?_
        rintro ⟨_, rfl, fits⟩
        omega
      · simp only [readDigits, digit, ↓reduceIte, if_neg large, true_and, step]
        exact ih (Nat.lt_of_not_le large)

def countOf (digits : List Char) : Except CountFault UInt32 :=
  if digits.isEmpty then .error .invalidDigit
  else
    match readDigits 0 digits with
    | .error fault => .error fault
    | .ok n => if n = 0 then .error .zero else .ok (UInt32.ofNat n)

theorem countOf_eq_ok_iff {digits : List Char} {n : UInt32} :
    countOf digits = .ok n ↔ digits ≠ [] ∧ (∀ c ∈ digits, Text.isDigit c = true) ∧
      Nat.ofDigitChars 10 digits 0 = n.toNat ∧ 1 ≤ n.toNat := by
  have bound := n.toNat_lt
  cases digits with
  | nil => exact iff_of_false nofun fun said => said.1 rfl
  | cons c cs =>
    have read {m : Nat} : readDigits 0 (c :: cs) = .ok m ↔ _ := readDigits_eq_ok_iff (by decide)
    simp only [countOf, List.isEmpty_cons, Bool.false_eq_true, ↓reduceIte, ne_eq, reduceCtorEq, not_false_eq_true,
      true_and]
    cases result : readDigits 0 (c :: cs) with
    | error fault =>
      refine iff_of_false nofun ?_
      rintro ⟨all, value, _⟩
      rw [read.2 ⟨all, value, bound⟩] at result
      cases result
    | ok m =>
      obtain ⟨all, value, fits⟩ := read.1 result
      simp only [value]
      by_cases zero : m = 0
      · rw [if_pos zero]
        refine iff_of_false nofun ?_
        rintro ⟨_, same, pos⟩
        omega
      · rw [if_neg zero, Except.ok.injEq]
        constructor
        · rintro rfl
          rw [UInt32.toNat_ofNat_of_lt' fits]
          exact ⟨all, rfl, Nat.pos_of_ne_zero zero⟩
        · rintro ⟨_, rfl, _⟩
          exact UInt32.ofNat_toNat

theorem readCount_eq_ok_iff {cs : List Char} {n : UInt32} :
    readCount cs = .ok n ↔ Numeral cs n.toNat ∧ 1 ≤ n.toNat := by
  have sign : Text.isDigit '+' = false := rfl
  have reads (digits : List Char) (unsigned : ∀ others, digits ≠ '+' :: others) :
      readCount digits = countOf digits := by
    unfold readCount
    split
    · exact absurd rfl (unsigned _)
    · rfl
  by_cases signed : ∃ digits, cs = '+' :: digits
  · obtain ⟨digits, rfl⟩ := signed
    change countOf digits = .ok n ↔ _
    rw [countOf_eq_ok_iff]
    constructor
    · rintro ⟨some, all, value, pos⟩
      exact ⟨⟨digits, .inr rfl, some, all, value⟩, pos⟩
    · rintro ⟨⟨others, rfl | same, some, all, value⟩, pos⟩
      · have digit := all '+' List.mem_cons_self
        rw [sign] at digit
        cases digit
      · cases same
        exact ⟨some, all, value, pos⟩
  · rw [reads cs fun others same => signed ⟨others, same⟩, countOf_eq_ok_iff]
    constructor
    · rintro ⟨some, all, value, pos⟩
      exact ⟨⟨cs, .inl rfl, some, all, value⟩, pos⟩
    · rintro ⟨⟨others, rfl | same, some, all, value⟩, pos⟩
      · exact ⟨some, all, value, pos⟩
      · exact absurd ⟨others, same⟩ signed

theorem numeral_toString (n : UInt32) : Numeral (toString n).toList n.toNat := by
  have digits : (toString n).toList = Nat.toDigits 10 n.toNat := String.toList_ofList
  refine ⟨_, .inl rfl, ?_, ?_, ?_⟩
  · rw [digits]
    exact Nat.toDigits_ne_nil
  · rw [digits]
    exact fun c hc => Text.isDigit_of_mem_toDigits hc
  · rw [digits]
    exact Nat.ofDigitChars_toDigits (by decide) (by decide)

/-- What comes of a variable: the default while it is unset or blank, and what its trimmed value means otherwise. -/
def ComesTo {α : Type} (means : List Char → α → Prop) (default : α) (value? : Option String) (x : α) : Prop :=
  match value? with
  | none => x = default
  | some value => if Text.blank value then x = default else means (Text.trim value.toList) x

def fromVariable {α : Type} (read : String → Except InvalidValue α) (default : α) (value? : Option String) :
    Except InvalidValue α :=
  match value?.filter fun value => !Text.blank value with
  | some value => read value
  | none => .ok default

section Variable

variable {α : Type} {read : String → Except InvalidValue α} {means : List Char → α → Prop} {default x : α}
  {value? : Option String} {e : InvalidValue}

theorem fromVariable_eq_ok_iff (reads : ∀ value x, read value = .ok x ↔ means (Text.trim value.toList) x) :
    fromVariable read default value? = .ok x ↔ ComesTo means default value? x := by
  unfold fromVariable ComesTo
  cases value? with
  | none => simp [eq_comm]
  | some value => cases blank : Text.blank value <;> simp [Option.filter, blank, reads, eq_comm]

theorem fromVariable_eq_error_iff :
    fromVariable read default value? = .error e ↔
      ∃ value, value? = some value ∧ Text.blank value = false ∧ read value = .error e := by
  unfold fromVariable
  cases value? with
  | none => simp
  | some value => cases blank : Text.blank value <;> simp [Option.filter, blank]

theorem exists_comesTo_iff :
    (∃ x, ComesTo means default value? x) ↔
      ∀ value ∈ value?, Text.blank value = true ∨ ∃ x, means (Text.trim value.toList) x := by
  unfold ComesTo
  cases value? with
  | none => simp
  | some value => cases blank : Text.blank value <;> simp [blank]

theorem ComesTo.default_or_meant (comes : ComesTo means default value? x) :
    x = default ∨ ∃ value, Text.blank value = false ∧ means (Text.trim value.toList) x := by
  unfold ComesTo at comes
  cases value? with
  | none => exact .inl comes
  | some value =>
    cases blank : Text.blank value with
    | true => exact .inl (by simpa [blank] using comes)
    | false => exact .inr ⟨value, blank, by simpa [blank] using comes⟩

end Variable

structure IsTrimmed (text : String) : Prop where
  unblank : Text.blank text = false
  starts : ∀ c ∈ text.toList.head?, Text.isBlank c = false
  ends : ∀ c ∈ text.toList.getLast?, Text.isBlank c = false

theorem isTrimmed_of_unblank {text : String} (some : text.toList ≠ [])
    (unblank : ∀ c ∈ text.toList, Text.isBlank c = false) : IsTrimmed text where
  unblank := by
    obtain ⟨c, cs, chars⟩ := List.exists_cons_of_ne_nil some
    rw [Text.blank, chars, List.all_cons, unblank c (chars ▸ List.mem_cons_self), Bool.false_and]
  starts := fun c hc => unblank c (List.mem_of_mem_head? hc)
  ends := fun c hc => unblank c (List.mem_of_mem_getLast? hc)

theorem isTrimmed_of_trim {value text : String} (unblank : Text.blank value = false)
    (trimmed : text.toList = Text.trim value.toList) : IsTrimmed text := by
  obtain ⟨before, after, whole, blankBefore, blankAfter, ends⟩ := Text.exists_trimmed Text.isBlank value.toList
  have starts := Text.head?_trimEnds Text.isBlank value.toList
  change text.toList = Text.trimEnds Text.isBlank value.toList at trimmed
  rw [← trimmed] at whole starts ends
  refine ⟨?_, starts, ends⟩
  cases chars : text.toList with
  | nil =>
    have blank : Text.blank value = true := by
      rw [Text.blank, whole, chars, List.append_nil, List.all_append, List.all_eq_true.2 blankBefore,
        List.all_eq_true.2 blankAfter]
      rfl
    rw [unblank] at blank
    cases blank
  | cons c cs =>
    rw [chars] at starts
    rw [Text.blank, chars, List.all_cons, starts c rfl, Bool.false_and]

def Pads (value? : Option String) (text : String) : Prop :=
  ∃ value before after, value? = some value ∧ value.toList = before ++ text.toList ++ after ∧
    (∀ c ∈ before, Text.isBlank c = true) ∧ ∀ c ∈ after, Text.isBlank c = true

theorem comesTo_of_pads {α : Type} {means : List Char → α → Prop} {default x : α} {value? : Option String}
    {text : String} (pads : Pads value? text) (core : IsTrimmed text) (meant : means text.toList x) :
    ComesTo means default value? x := by
  obtain ⟨value, before, after, rfl, whole, blankBefore, blankAfter⟩ := pads
  have some : text.toList ≠ [] := by
    intro empty
    have unblank := core.unblank
    rw [Text.blank, empty] at unblank
    cases unblank
  have trimmed : Text.trim value.toList = text.toList := by
    rw [whole]
    exact Text.trimEnds_append blankBefore blankAfter core.starts core.ends some
  have unblank : Text.blank value = false := by
    have inside := core.unblank
    rw [Text.blank] at inside ⊢
    rw [whole, List.all_append, List.all_append, inside, Bool.and_false, Bool.false_and]
  simp only [ComesTo, unblank, Bool.false_eq_true, ↓reduceIte, trimmed]
  exact meant

structure IsProper (s : Settings) : Prop where
  databaseUrl : IsTrimmed s.databaseUrl
  maxConnections : 1 ≤ s.maxConnections.toNat

structure Meant (lookup : Setting → Option String) (s : Settings) : Prop where
  databaseUrl : ComesTo (fun cs url => url.toList = cs) standard.databaseUrl (lookup .databaseUrl) s.databaseUrl
  maxConnections :
    ComesTo (fun cs n => Numeral cs n.toNat ∧ 1 ≤ n.toNat) standard.maxConnections (lookup .maxConnections)
      s.maxConnections
  logFormat : ComesTo (fun cs f => LogFormat.Spells cs f.name) standard.logFormat (lookup .logFormat) s.logFormat

def text (s : Settings) : Setting → String
  | .databaseUrl => s.databaseUrl
  | .maxConnections => toString s.maxConnections
  | .logFormat => s.logFormat.name

variable {lookup : Setting → Option String} {s : Settings} {e : InvalidValue}

theorem trimmed_eq_ok_iff (value url : String) :
    (Except.ok (Text.trimmed value) : Except InvalidValue String) = .ok url ↔ url.toList = Text.trim value.toList := by
  rw [Except.ok.injEq, Text.trimmed, ← String.toList_inj, String.toList_ofList, eq_comm]

theorem parseMaxConnections_eq_ok_iff (value : String) (n : UInt32) :
    parseMaxConnections value = .ok n ↔ Numeral (Text.trim value.toList) n.toNat ∧ 1 ≤ n.toNat := by
  rw [parseMaxConnections, mapError_eq_ok_iff, readCount_eq_ok_iff]

theorem parseLogFormat_eq_ok_iff (value : String) (f : LogFormat) :
    parseLogFormat value = .ok f ↔ LogFormat.Spells (Text.trim value.toList) f.name := by
  rw [parseLogFormat, mapError_eq_ok_iff, LogFormat.parse_eq_ok_iff]

section Each

variable {value? : Option String}

theorem databaseUrl_eq_ok_iff {url : String} :
    fromVariable (fun url => .ok (Text.trimmed url)) standard.databaseUrl value? = .ok url ↔
      ComesTo (fun cs url => url.toList = cs) standard.databaseUrl value? url :=
  fromVariable_eq_ok_iff trimmed_eq_ok_iff

theorem maxConnections_eq_ok_iff {n : UInt32} :
    fromVariable parseMaxConnections standard.maxConnections value? = .ok n ↔
      ComesTo (fun cs n => Numeral cs n.toNat ∧ 1 ≤ n.toNat) standard.maxConnections value? n :=
  fromVariable_eq_ok_iff parseMaxConnections_eq_ok_iff

theorem logFormat_eq_ok_iff {f : LogFormat} :
    fromVariable parseLogFormat standard.logFormat value? = .ok f ↔
      ComesTo (fun cs f => LogFormat.Spells cs f.name) standard.logFormat value? f :=
  fromVariable_eq_ok_iff parseLogFormat_eq_ok_iff

end Each

theorem ofLookup_eq (lookup : Setting → Option String) :
    ofLookup lookup = (do
      let databaseUrl ← fromVariable (fun url => .ok (Text.trimmed url)) standard.databaseUrl (lookup .databaseUrl)
      let maxConnections ← fromVariable parseMaxConnections standard.maxConnections (lookup .maxConnections)
      let logFormat ← fromVariable parseLogFormat standard.logFormat (lookup .logFormat)
      return ⟨databaseUrl, maxConnections, logFormat⟩) := by
  have asked {α : Type} (read : String → Except InvalidValue α) (default : α) (setting : Setting) :
      fromVariable read default (lookup setting) = (given? lookup setting).elim (.ok default) read := by
    unfold fromVariable given?
    cases (lookup setting).filter fun value => !Text.blank value <;> rfl
  simp only [ofLookup, asked]
  cases given? lookup .databaseUrl <;> cases given? lookup .maxConnections <;> cases given? lookup .logFormat <;>
    simp only [Option.elim, ok_bind, pure_bind]

theorem ofLookup_eq_ok_iff : ofLookup lookup = .ok s ↔ Meant lookup s := by
  simp only [ofLookup_eq, bind_eq_ok_iff, pure_eq_ok_iff, databaseUrl_eq_ok_iff, maxConnections_eq_ok_iff,
    logFormat_eq_ok_iff]
  constructor
  · rintro ⟨_, named, _, counted, _, formatted, rfl⟩
    exact ⟨named, counted, formatted⟩
  · rintro ⟨named, counted, formatted⟩
    exact ⟨_, named, _, counted, _, formatted, rfl⟩

/-- The number of connections is complained about first. -/
theorem ofLookup_eq_error (failed : ofLookup lookup = .error e) :
    (∃ value, lookup .maxConnections = some value ∧ Text.blank value = false ∧ parseMaxConnections value = .error e) ∨
      (∃ n, fromVariable parseMaxConnections standard.maxConnections (lookup .maxConnections) = .ok n) ∧
        ∃ value, lookup .logFormat = some value ∧ Text.blank value = false ∧ parseLogFormat value = .error e := by
  rw [ofLookup_eq] at failed
  cases url : fromVariable (fun url => .ok (Text.trimmed url)) standard.databaseUrl (lookup .databaseUrl) with
  | error e' =>
    obtain ⟨_, _, _, refused⟩ := fromVariable_eq_error_iff.1 url
    cases refused
  | ok url' =>
    rw [url, ok_bind] at failed
    cases counted : fromVariable parseMaxConnections standard.maxConnections (lookup .maxConnections) with
    | error e' =>
      rw [counted] at failed
      cases failed
      exact .inl (fromVariable_eq_error_iff.1 counted)
    | ok n =>
      rw [counted, ok_bind] at failed
      cases formatted : fromVariable parseLogFormat standard.logFormat (lookup .logFormat) with
      | error e' =>
        rw [formatted] at failed
        cases failed
        exact .inr ⟨⟨n, rfl⟩, fromVariable_eq_error_iff.1 formatted⟩
      | ok f =>
        rw [formatted] at failed
        cases failed

/-- Whether a variable leaves the number of connections at its default or holds one of 32 bits that is not zero. -/
def CountReadable (value? : Option String) : Prop :=
  ∀ value ∈ value?, Text.blank value = true ∨ ∃ n, Numeral (Text.trim value.toList) n ∧ 1 ≤ n ∧ n ≤ 4294967295

def FormatReadable (value? : Option String) : Prop :=
  ∀ value ∈ value?, Text.blank value = true ∨ ∃ name ∈ ["text", "json"], LogFormat.Spells (Text.trim value.toList) name

theorem countReadable_iff {value? : Option String} :
    CountReadable value? ↔ ∃ n, fromVariable parseMaxConnections standard.maxConnections value? = .ok n := by
  have small {cs : List Char} :
      (∃ n, Numeral cs n ∧ 1 ≤ n ∧ n ≤ 4294967295) ↔ ∃ n : UInt32, Numeral cs n.toNat ∧ 1 ≤ n.toNat := by
    constructor
    · rintro ⟨n, number, pos, fits⟩
      have same : (UInt32.ofNat n).toNat = n := UInt32.toNat_ofNat_of_lt' (Nat.lt_succ_of_le fits)
      exact ⟨UInt32.ofNat n, same.symm ▸ number, same.symm ▸ pos⟩
    · rintro ⟨n, number, pos⟩
      exact ⟨n.toNat, number, pos, Nat.le_of_lt_succ n.toNat_lt⟩
  simp only [maxConnections_eq_ok_iff, exists_comesTo_iff, CountReadable, small]

theorem formatReadable_iff {value? : Option String} :
    FormatReadable value? ↔ ∃ f, fromVariable parseLogFormat standard.logFormat value? = .ok f := by
  have named {cs : List Char} :
      (∃ name ∈ ["text", "json"], LogFormat.Spells cs name) ↔ ∃ f : LogFormat, LogFormat.Spells cs f.name := by
    constructor
    · rintro ⟨name, member, spelled⟩
      rcases List.mem_pair.1 member with rfl | rfl
      · exact ⟨.text, spelled⟩
      · exact ⟨.json, spelled⟩
    · rintro ⟨f, spelled⟩
      exact ⟨f.name, by cases f <;> decide, spelled⟩
  simp only [logFormat_eq_ok_iff, exists_comesTo_iff, FormatReadable, named]

theorem exists_ofLookup_iff :
    (∃ s, ofLookup lookup = .ok s) ↔ CountReadable (lookup .maxConnections) ∧ FormatReadable (lookup .logFormat) := by
  rw [countReadable_iff, formatReadable_iff]
  simp only [ofLookup_eq, bind_eq_ok_iff, pure_eq_ok_iff]
  constructor
  · rintro ⟨_, _, _, n, counted, f, formatted, _⟩
    exact ⟨⟨n, counted⟩, f, formatted⟩
  · rintro ⟨⟨n, counted⟩, f, formatted⟩
    obtain ⟨url, named⟩ :
        ∃ url, ComesTo (fun cs url => url.toList = cs) standard.databaseUrl (lookup .databaseUrl) url :=
      exists_comesTo_iff.2 fun value _ => .inr ⟨Text.trimmed value, String.toList_ofList⟩
    exact ⟨_, url, (fromVariable_eq_ok_iff trimmed_eq_ok_iff).2 named, n, counted, f, formatted, rfl⟩

theorem blamed_of_error (failed : ofLookup lookup = .error e) :
    (¬ CountReadable (lookup .maxConnections) ∧ e.setting = .maxConnections ∨
      CountReadable (lookup .maxConnections) ∧ ¬ FormatReadable (lookup .logFormat) ∧ e.setting = .logFormat) ∧
        lookup e.setting = some e.value := by
  have unreadable : ¬ ∃ s, ofLookup lookup = .ok s := by
    rintro ⟨s, ok⟩
    rw [failed] at ok
    cases ok
  rw [exists_ofLookup_iff] at unreadable
  rcases ofLookup_eq_error failed with ⟨value, given, unblank, refused⟩ | ⟨counted, value, given, unblank, refused⟩
  · have bad : ¬ CountReadable (lookup .maxConnections) := by
      rw [countReadable_iff]
      rintro ⟨n, ok⟩
      rw [fromVariable_eq_error_iff.2 ⟨value, given, unblank, refused⟩] at ok
      cases ok
    unfold parseMaxConnections at refused
    cases read : readCount (Text.trim value.toList) with
    | ok n =>
      rw [read] at refused
      cases refused
    | error fault =>
      rw [read] at refused
      cases refused
      exact ⟨.inl ⟨bad, rfl⟩, given⟩
  · have good : CountReadable (lookup .maxConnections) := countReadable_iff.2 counted
    unfold parseLogFormat at refused
    cases read : LogFormat.parse value with
    | ok f =>
      rw [read] at refused
      cases refused
    | error reason =>
      rw [read] at refused
      cases refused
      exact ⟨.inr ⟨good, fun readable => unreadable ⟨good, readable⟩, rfl⟩, given⟩

theorem Meant.isProper (meant : Meant lookup s) : s.IsProper where
  databaseUrl := by
    rcases meant.databaseUrl.default_or_meant with url | ⟨value, unblank, url⟩
    · rw [url]
      exact isTrimmed_of_unblank nofun (List.all_iff_forall_prop.1 (by decide))
    · exact isTrimmed_of_trim unblank url
  maxConnections := by
    rcases meant.maxConnections.default_or_meant with connections | ⟨value, _, _, pos⟩
    · rw [connections]
      decide
    · exact pos

theorem IsProper.meant (proper : s.IsProper) (pads : ∀ setting, Pads (lookup setting) (s.text setting)) :
    Meant lookup s where
  databaseUrl := comesTo_of_pads (pads .databaseUrl) proper.databaseUrl rfl
  maxConnections := by
    have number := numeral_toString s.maxConnections
    refine comesTo_of_pads (pads .maxConnections) ?_ ⟨number, proper.maxConnections⟩
    have digits : (toString s.maxConnections).toList = Nat.toDigits 10 s.maxConnections.toNat := String.toList_ofList
    apply isTrimmed_of_unblank
    · rw [text, digits]
      exact Nat.toDigits_ne_nil
    · intro c hc
      rw [text, digits] at hc
      exact Text.not_blank_of_isDigit (Text.isDigit_of_mem_toDigits hc)
  logFormat := by
    refine comesTo_of_pads (pads .logFormat) ?_ (List.forall₂_same.2 fun c _ => .inl rfl)
    rw [text]
    cases s.logFormat <;> exact isTrimmed_of_unblank nofun (List.all_iff_forall_prop.1 (by decide))

/-- Settings are read from variables exactly when both that can be bad are good; otherwise the first bad one is named
    with its value as it stands. What is read is proper, and whatever is proper is read from the texts of its settings
    with white space around them. -/
theorem variables_read_exactly (lookup : String → Option String) :
    (∀ s, ofLookup (fun setting => lookup setting.key) = .ok s ↔ Meant (fun setting => lookup setting.key) s) ∧
    ((∃ s, ofLookup (fun setting => lookup setting.key) = .ok s) ↔
      CountReadable (lookup "CORS_DB_MAX_CONNECTIONS") ∧ FormatReadable (lookup "CORS_LOG_FORMAT")) ∧
    (∀ e, ofLookup (fun setting => lookup setting.key) = .error e →
      (¬ CountReadable (lookup "CORS_DB_MAX_CONNECTIONS") ∧ e.setting.key = "CORS_DB_MAX_CONNECTIONS" ∨
        CountReadable (lookup "CORS_DB_MAX_CONNECTIONS") ∧ ¬ FormatReadable (lookup "CORS_LOG_FORMAT") ∧
          e.setting.key = "CORS_LOG_FORMAT") ∧
      lookup e.setting.key = some e.value) ∧
    (∀ s, ofLookup (fun setting => lookup setting.key) = .ok s → s.IsProper) ∧
    ∀ s : Settings, s.IsProper → (∀ setting : Setting, Pads (lookup setting.key) (s.text setting)) →
      ofLookup (fun setting => lookup setting.key) = .ok s := by
  refine ⟨fun s => ofLookup_eq_ok_iff, exists_ofLookup_iff, fun e failed => ?_, fun s ok => ?_, fun s proper pads => ?_⟩
  · obtain ⟨blamed, value⟩ := blamed_of_error failed
    refine ⟨blamed.imp ?_ ?_, value⟩
    · rintro ⟨bad, setting⟩
      exact ⟨bad, congrArg Setting.key setting⟩
    · rintro ⟨good, bad, setting⟩
      exact ⟨good, bad, congrArg Setting.key setting⟩
  · exact (ofLookup_eq_ok_iff.1 ok).isProper
  · exact ofLookup_eq_ok_iff.2 (proper.meant pads)

def paddedVariables (key : String) : Option String :=
  if key = "DATABASE_URL" then some "  sqlite::memory:\n"
  else if key = "CORS_DB_MAX_CONNECTIONS" then some "\t4294967295 "
  else if key = "CORS_LOG_FORMAT" then some "\u3000json"
  else none

theorem paddedVariables_read :
    ofLookup (fun setting => paddedVariables setting.key) = .ok ⟨"sqlite::memory:", 4294967295, .json⟩ := by
  refine (variables_read_exactly paddedVariables).2.2.2.2 ⟨"sqlite::memory:", 4294967295, .json⟩ ⟨?_, by decide⟩ ?_
  · exact isTrimmed_of_unblank nofun (List.all_iff_forall_prop.1 (by decide))
  · have blanks {padding : List Char} (all : padding.all Text.isBlank = true) : ∀ c ∈ padding, Text.isBlank c = true :=
      List.all_eq_true.1 all
    intro setting
    cases setting with
    | databaseUrl => exact ⟨_, [' ', ' '], ['\n'], rfl, rfl, blanks (by decide), blanks (by decide)⟩
    | maxConnections => exact ⟨_, ['\t'], [' '], rfl, rfl, blanks (by decide), blanks (by decide)⟩
    | logFormat => exact ⟨_, ['\u3000'], [], rfl, rfl, blanks (by decide), blanks (by decide)⟩

end Settings

end OriginRegistry
