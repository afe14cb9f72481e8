import OriginRegistry.Model.StorageError
import OriginRegistry.Proofs.Json.Shapes

/-!
# Which failures of the storage survive as texts

A failure with named fields is written as their record with the tag in front, and is read from it. A failure that holds
one unnamed text has no such record: it cannot be written, and no text whatever is read as it.
-/

set_option autoImplicit false

namespace OriginRegistry

open Json

namespace StoreOperation

theorem ofName?_name (operation : StoreOperation) : ofName? operation.name = some operation := by
  cases operation <;> decide

theorem decode_name (surplus : Surplus) (operation : StoreOperation) :
    decode surplus (.choice (all.map name)) (.text operation.name) = .ok (.text operation.name) := by
  have known : (all.map name).contains operation.name = true := by cases operation <;> decide
  simp only [decode, known, ↓reduceIte]

end StoreOperation

namespace StorageError

theorem reads_text (depth : Nat) (value : String) :
    ReadsAs (readValue depth) (chars (.text value)) (.text value) :=
  readsBack_iff.1 (readValue_scalar depth trivial)

theorem parse_operationFailed (operation : StoreOperation) (key message : String) :
    ∃ v, toJson (.operationFailed operation key message) = .ok v ∧
      decoder.parse v.print = .ok (.operationFailed operation key message) := by
  have once : ["operation", "key", "message"].Nodup := by decide
  have back : StoreOperation.ofName? operation.name = some operation := operation.ofName?_name
  refine ⟨_, rfl, Decoder.parse_print (read_tagged rfl ?_ (decode_record ?_ once rfl)) ?_⟩
  · simp only [List.forall_mem_cons, List.not_mem_nil, false_imp_iff, implies_true, and_true]
    exact ⟨⟨by decide, reads_text _ _⟩, ⟨by decide, reads_text _ _⟩, ⟨by decide, reads_text _ _⟩⟩
  · simp only [List.forall_mem_cons, List.not_mem_nil, false_imp_iff, implies_true, and_true]
    exact ⟨⟨_, _, rfl, operation.decode_name _⟩, ⟨_, _, rfl, decode_text key⟩, ⟨_, _, rfl, decode_text message⟩⟩
  · change (StoreOperation.ofName? operation.name).bind (some <| operationFailed · key message) = _
    rw [back]
    rfl

theorem parse_notFound (entityType entityId : String) :
    ∃ v, toJson (.notFound entityType entityId) = .ok v ∧
      decoder.parse v.print = .ok (.notFound entityType entityId) := by
  have once : ["entity_type", "entity_id"].Nodup := by decide
  refine ⟨_, rfl, Decoder.parse_print (read_tagged rfl ?_ (decode_record ?_ once rfl)) rfl⟩
  · simp only [List.forall_mem_cons, List.not_mem_nil, false_imp_iff, implies_true, and_true]
    exact ⟨⟨by decide, reads_text _ _⟩, ⟨by decide, reads_text _ _⟩⟩
  · simp only [List.forall_mem_cons, List.not_mem_nil, false_imp_iff, implies_true, and_true]
    exact ⟨⟨_, _, rfl, decode_text _⟩, ⟨_, _, rfl, decode_text _⟩⟩

def Survives (e : StorageError) : Prop := ∃ v, e.toJson = .ok v ∧ decoder.parse v.print = .ok e

def Lost (e : StorageError) : Prop :=
  (∃ refusal, e.toJson = .error refusal) ∧ ∀ source, decoder.parse source ≠ .ok e

def HasNamedFields : StorageError → Prop
  | .operationFailed _ _ _ => True
  | .notFound _ _ => True
  | .connection _ => False
  | .other _ => False

theorem hasNamedFields_of_parse {source : String} {e : StorageError} (parsed : decoder.parse source = .ok e) :
    e.HasNamedFields := by
  obtain ⟨v, back⟩ := Decoder.ofJson?_of_parse parsed
  obtain ⟨tag, _, back⟩ := Option.bind_eq_some_iff.1 back
  split at back
  · obtain ⟨operation, _, back⟩ := Option.bind_eq_some_iff.1 back
    obtain ⟨_, _, back⟩ := Option.bind_eq_some_iff.1 back
    obtain ⟨_, _, back⟩ := Option.bind_eq_some_iff.1 back
    obtain ⟨_, _, back⟩ := Option.bind_eq_some_iff.1 back
    cases back
    trivial
  · obtain ⟨_, _, back⟩ := Option.bind_eq_some_iff.1 back
    obtain ⟨_, _, back⟩ := Option.bind_eq_some_iff.1 back
    cases back
    trivial
  · cases back

theorem survives {e : StorageError} (named : e.HasNamedFields) : e.Survives := by
  cases e with
  | operationFailed operation key message => exact parse_operationFailed operation key message
  | notFound entityType entityId => exact parse_notFound entityType entityId
  | connection message => exact named.elim
  | other message => exact named.elim

theorem lost {e : StorageError} (unnamed : ¬ e.HasNamedFields) : e.Lost := by
  have unread (source : String) : decoder.parse source ≠ .ok e :=
    fun parsed => unnamed (hasNamedFields_of_parse parsed)
  cases e with
  | operationFailed operation key message => exact absurd trivial unnamed
  | notFound entityType entityId => exact absurd trivial unnamed
  | connection message => exact ⟨⟨_, rfl⟩, unread⟩
  | other message => exact ⟨⟨_, rfl⟩, unread⟩

theorem Survives.not_lost {e : StorageError} : e.Survives → ¬ e.Lost
  | ⟨_, _, parsed⟩, ⟨_, unread⟩ => unread _ parsed

/-- Failures with named fields survive, and all others are lost. -/
theorem survives_iff_hasNamedFields (e : StorageError) :
    (e.Survives ↔ e.HasNamedFields) ∧ (e.Lost ↔ ¬ e.HasNamedFields) := by
  have named : e.Survives → e.HasNamedFields := fun ⟨_, _, parsed⟩ => hasNamedFields_of_parse parsed
  exact ⟨⟨named, survives⟩, fun isLost isNamed => (survives isNamed).not_lost isLost, lost⟩

end StorageError

end OriginRegistry
