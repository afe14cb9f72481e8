import OriginRegistry.Origin
import OriginRegistry.Proofs.Action
import OriginRegistry.Proofs.Distinct

set_option autoImplicit false

namespace OriginRegistry.Origin

def refusal? (text : String) : Option Refusal :=
  match parse text with
  | .error refusal => some refusal
  | .ok _ => none

theorem parseEach_eq_ok_iff {texts : List String} {origins : List Origin} :
    parseEach texts = .ok origins ↔ texts.map parse = origins.map .ok := by
  induction texts generalizing origins with
  | nil => cases origins <;> simp [parseEach]
  | cons text texts ih =>
    unfold parseEach
    rw [List.map_cons]
    cases parse text with
    | error refusal => cases origins <;> simp
    | ok origin =>
      cases rest : parseEach texts with
      | error refusal =>
        refine ⟨nofun, fun same => ?_⟩
        cases origins with
        | nil => cases same
        | cons first others =>
          rw [ih.2 (List.cons.inj same).2] at rest
          cases rest
      | ok others =>
        have tail := ih.1 rest
        constructor
        · rintro ⟨⟩
          rw [tail, List.map_cons]
        · intro same
          cases origins with
          | nil => cases same
          | cons first more =>
            obtain ⟨head, later⟩ := List.cons.inj same
            cases head
            rw [ih.2 later] at rest
            cases rest
            rfl

theorem parseEach_eq_error_iff {texts : List String} {refusal : Refusal} :
    parseEach texts = .error refusal ↔ texts.findSome? refusal? = some refusal := by
  induction texts with
  | nil => exact ⟨nofun, nofun⟩
  | cons text texts ih =>
    unfold parseEach
    rw [List.findSome?_cons, refusal?]
    cases parse text with
    | error first => simp
    | ok origin =>
      simp only [← ih]
      cases parseEach texts <;> simp

theorem parseAll_eq_ok_iff {texts : List String} {origins : List Origin} :
    parseAll texts = .ok origins ↔ ∃ each, texts.map parse = each.map .ok ∧ distinct each = origins := by
  rw [parseAll, map_eq_ok_iff]
  simp only [parseEach_eq_ok_iff]

theorem parseAll_eq_error_iff {texts : List String} {refusal : Refusal} :
    parseAll texts = .error refusal ↔ texts.findSome? refusal? = some refusal := by
  rw [← parseEach_eq_error_iff, parseAll]
  cases parseEach texts <;> simp [Except.map]

theorem mem_of_parseAll {texts : List String} {origins : List Origin} (ok : parseAll texts = .ok origins)
    {origin : Origin} : origin ∈ origins ↔ ∃ text ∈ texts, parse text = .ok origin := by
  obtain ⟨each, read, rfl⟩ := parseAll_eq_ok_iff.1 ok
  rw [mem_distinct, ← List.mem_map, read, List.mem_map]
  exact ⟨fun h => ⟨origin, h, rfl⟩, fun ⟨_, h, same⟩ => Except.ok.inj same ▸ h⟩

theorem parseAll_nodup {texts : List String} {origins : List Origin} (ok : parseAll texts = .ok origins) :
    origins.Nodup := by
  obtain ⟨each, _, rfl⟩ := parseAll_eq_ok_iff.1 ok
  exact distinct_nodup each

end OriginRegistry.Origin
