import Mathlib.Data.Finset.Card
import OriginRegistry.Management.Service
import OriginRegistry.Proofs.Origin.Reading

set_option autoImplicit false

namespace OriginRegistry

namespace Origin

def firstPlace (texts : List String) (o : Origin) : Nat := texts.findIdx fun text => (parse text).toOption = some o

/-- Every origin that some text spells, once, in the order of the first spellings. -/
structure FirstSpelled (texts : List String) (origins : List Origin) : Prop where
  once : origins.Nodup
  spelled : ∀ o, o ∈ origins ↔ ∃ text ∈ texts, parse text = .ok o
  inOrder : origins.Pairwise fun a b => firstPlace texts a < firstPlace texts b

variable {texts : List String} {origins : List Origin}

theorem firstPlace_eq_idxOf {each : List Origin} (read : texts.map parse = each.map .ok) (o : Origin) :
    firstPlace texts o = each.idxOf o := by
  unfold firstPlace
  induction texts generalizing each with
  | nil =>
    cases each with
    | nil => rfl
    | cons first others => cases read
  | cons text texts ih =>
    cases each with
    | nil => cases read
    | cons first others =>
      obtain ⟨here, later⟩ := List.cons.inj read
      have asked : decide ((parse text).toOption = some o) = (first == o) := by
        rw [here]
        exact decide_eq_decide.2 (Option.some_inj)
      rw [List.findIdx_cons, List.idxOf_cons, asked, ih later]

theorem FirstSpelled.unique {others : List Origin} (h : FirstSpelled texts origins) (h' : FirstSpelled texts others) :
    origins = others := by
  have same : origins.Perm others :=
    (List.perm_ext_iff_of_nodup h.once h'.once).2 fun o => (h.spelled o).trans (h'.spelled o).symm
  refine List.Perm.eq_of_pairwise ?_ h.inOrder h'.inOrder same
  intro a b _ _ before behind
  exact absurd before (Nat.lt_asymm behind)

theorem firstSpelled_of_parseAll (ok : parseAll texts = .ok origins) : FirstSpelled texts origins where
  once := parseAll_nodup ok
  spelled := fun _ => mem_of_parseAll ok
  inOrder := by
    obtain ⟨each, read, rfl⟩ := parseAll_eq_ok_iff.1 ok
    simp only [firstPlace_eq_idxOf read]
    exact distinct_inOrder each

theorem refusal?_eq_some_iff {text : String} {refusal : Refusal} :
    refusal? text = some refusal ↔ parse text = .error refusal := by
  unfold refusal?
  cases parse text <;> simp

theorem refusal?_eq_none_iff {text : String} : refusal? text = none ↔ ∃ o, parse text = .ok o := by
  unfold refusal?
  cases parse text <;> simp

theorem parseAll_refused_iff {refusal : Refusal} :
    parseAll texts = .error refusal ↔ ∃ before text after, texts = before ++ text :: after ∧
      (∀ earlier ∈ before, ∃ o, parse earlier = .ok o) ∧ parse text = .error refusal := by
  rw [parseAll_eq_error_iff, List.findSome?_eq_some_iff]
  simp only [refusal?_eq_some_iff, refusal?_eq_none_iff]
  constructor
  · rintro ⟨before, text, after, whole, refused, read⟩
    exact ⟨before, text, after, whole, read, refused⟩
  · rintro ⟨before, text, after, whole, read, refused⟩
    exact ⟨before, text, after, whole, refused, read⟩

theorem exists_parseAll_iff : (∃ origins, parseAll texts = .ok origins) ↔ ∀ text ∈ texts, ∃ o, parse text = .ok o := by
  constructor
  · rintro ⟨origins, ok⟩ text ht
    obtain ⟨each, read, _⟩ := parseAll_eq_ok_iff.1 ok
    have asked : parse text ∈ each.map Except.ok := read ▸ List.mem_map_of_mem ht
    obtain ⟨o, _, same⟩ := List.mem_map.1 asked
    exact ⟨o, same.symm⟩
  · intro all
    cases result : parseAll texts with
    | ok origins => exact ⟨origins, rfl⟩
    | error refusal =>
      obtain ⟨before, text, after, whole, _, refused⟩ := parseAll_refused_iff.1 result
      obtain ⟨o, read⟩ := all text (whole ▸ List.mem_append_right before List.mem_cons_self)
      rw [refused] at read
      cases read

theorem parseAll_eq_ok_iff_firstSpelled :
    parseAll texts = .ok origins ↔ (∀ text ∈ texts, ∃ o, parse text = .ok o) ∧ FirstSpelled texts origins := by
  constructor
  · exact fun ok => ⟨exists_parseAll_iff.1 ⟨origins, ok⟩, firstSpelled_of_parseAll ok⟩
  · rintro ⟨all, spelled⟩
    obtain ⟨others, ok⟩ := exists_parseAll_iff.2 all
    rw [ok, (firstSpelled_of_parseAll ok).unique spelled]

theorem map_parse_text {more : List Origin} (own : ∀ o ∈ more, parse o.text = .ok o) :
    (more.map Origin.text).map parse = more.map .ok := by
  rw [List.map_map]
  exact List.map_congr_left own

theorem parseAll_append_texts (ok : parseAll texts = .ok origins) {more : List Origin} (among : more ⊆ origins)
    (own : ∀ o ∈ more, parse o.text = .ok o) : parseAll (texts ++ more.map Origin.text) = .ok origins := by
  obtain ⟨each, read, rfl⟩ := parseAll_eq_ok_iff.1 ok
  refine parseAll_eq_ok_iff.2 ⟨each ++ more, ?_, distinct_append_of_subset fun o ho => mem_distinct.1 (among ho)⟩
  rw [List.map_append, List.map_append, read, map_parse_text own]

theorem parseAll_texts (ok : parseAll texts = .ok origins) (own : ∀ o ∈ origins, parse o.text = .ok o) :
    parseAll (origins.map Origin.text) = .ok origins :=
  parseAll_eq_ok_iff.2 ⟨origins, map_parse_text own, distinct_of_nodup (parseAll_nodup ok)⟩

end Origin

namespace Management

variable {texts : List String}

theorem readOrigins_eq_error_iff {e : ManagementError} :
    readOrigins texts = .error e ↔ ∃ refusal, Origin.parseAll texts = .error refusal ∧ e = .invalidOrigin refusal := by
  unfold readOrigins
  cases Origin.parseAll texts <;> simp [Except.mapError, eq_comm]

/-- Texts are read as a whole, or refused for the first of them that is no origin. What is read are their distinct
    origins in the order of first spellings. Where their normal texts are read as these origins, the same is read from
    the normal texts, and from the texts with any of the normal texts behind them. -/
theorem texts_read_whole (texts : List String) :
    (∀ origins, readOrigins texts = .ok origins ↔
      (∀ text ∈ texts, ∃ o, Origin.parse text = .ok o) ∧ Origin.FirstSpelled texts origins) ∧
    ((∃ origins, readOrigins texts = .ok origins) ↔ ∀ text ∈ texts, ∃ o, Origin.parse text = .ok o) ∧
    (∀ e, readOrigins texts = .error e ↔ ∃ before text after refusal, texts = before ++ text :: after ∧
      (∀ earlier ∈ before, ∃ o, Origin.parse earlier = .ok o) ∧ Origin.parse text = .error refusal ∧
        e = .invalidOrigin refusal) ∧
    ∀ origins, readOrigins texts = .ok origins →
      (∃ each : List Origin, texts.map Origin.parse = each.map .ok ∧ origins = each.eraseDups ∧
        origins.length = each.toFinset.card) ∧
      ((∀ o ∈ origins, Origin.parse o.text = .ok o) →
        readOrigins (origins.map Origin.text) = .ok origins ∧
          ∀ more ⊆ origins, readOrigins (texts ++ more.map Origin.text) = .ok origins) := by
  refine ⟨fun origins => ?_, ?_, fun e => ?_, fun origins ok => ⟨?_, fun own => ?_⟩⟩
  · rw [readOrigins, mapError_eq_ok_iff, Origin.parseAll_eq_ok_iff_firstSpelled]
  · simp only [readOrigins, mapError_eq_ok_iff, Origin.exists_parseAll_iff]
  · simp only [readOrigins_eq_error_iff, Origin.parseAll_refused_iff]
    constructor
    · rintro ⟨refusal, ⟨before, text, after, whole, read, refused⟩, rfl⟩
      exact ⟨before, text, after, refusal, whole, read, refused, rfl⟩
    · rintro ⟨before, text, after, refusal, whole, read, refused, rfl⟩
      exact ⟨refusal, ⟨before, text, after, whole, read, refused⟩, rfl⟩
  · obtain ⟨each, read, rfl⟩ := Origin.parseAll_eq_ok_iff.1 (mapError_eq_ok_iff.1 ok)
    refine ⟨each, read, distinct_eq_eraseDups each, ?_⟩
    rw [← List.toFinset_card_of_nodup (distinct_nodup each)]
    congr 1
    ext o
    simp [mem_distinct]
  · have parsed := mapError_eq_ok_iff.1 ok
    refine ⟨mapError_eq_ok_iff.2 (Origin.parseAll_texts parsed own), fun more among => ?_⟩
    exact mapError_eq_ok_iff.2 (Origin.parseAll_append_texts parsed among fun o ho => own o (among ho))

/-- Two origins in two spellings each, which are read again with one of them behind. -/
theorem respelled_texts_read :
    readOrigins ["HTTP://Foo.com/", "https://bar.com:443", " http://foo.com:80 ", "https://BAR.com"] =
        .ok [⟨"http://foo.com"⟩, ⟨"https://bar.com"⟩] ∧
      readOrigins ["http://foo.com", "https://bar.com"] = .ok [⟨"http://foo.com"⟩, ⟨"https://bar.com"⟩] ∧
      readOrigins ["HTTP://Foo.com/", "https://bar.com:443", " http://foo.com:80 ", "https://BAR.com",
          "https://bar.com"] = .ok [⟨"http://foo.com"⟩, ⟨"https://bar.com"⟩] := by
  have read : readOrigins ["HTTP://Foo.com/", "https://bar.com:443", " http://foo.com:80 ", "https://BAR.com"] =
      .ok [⟨"http://foo.com"⟩, ⟨"https://bar.com"⟩] := rfl
  have own : ∀ o ∈ [(⟨"http://foo.com"⟩ : Origin), ⟨"https://bar.com"⟩], Origin.parse o.text = .ok o := by
    simp only [List.forall_mem_cons]
    exact ⟨rfl, rfl, nofun⟩
  obtain ⟨_, _, _, whole⟩ := texts_read_whole
    ["HTTP://Foo.com/", "https://bar.com:443", " http://foo.com:80 ", "https://BAR.com"]
  obtain ⟨again, behind⟩ := (whole _ read).2 own
  exact ⟨read, again, behind [⟨"https://bar.com"⟩] (by simp)⟩

end Management

end OriginRegistry
