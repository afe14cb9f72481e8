import OriginRegistry.Json.Codec

set_option autoImplicit false

namespace OriginRegistry

inductive StoreOperation
  | retrieveOrigins
  | addOrigins
  | deleteOriginAssociations
  | retrieveOriginApplications
  | resolveTenant
  | resolveApplication
  deriving DecidableEq, Repr

namespace StoreOperation

def describe : StoreOperation → String
  | .retrieveOrigins => "retrieve CORS origins"
  | .addOrigins => "add CORS origins"
  | .deleteOriginAssociations => "delete CORS origin associations"
  | .retrieveOriginApplications => "retrieve CORS origin applications"
  | .resolveTenant => "resolve tenant"
  | .resolveApplication => "resolve application"

def name : StoreOperation → String
  | .retrieveOrigins => "RETRIEVE_ORIGINS"
  | .addOrigins => "ADD_ORIGINS"
  | .deleteOriginAssociations => "DELETE_ORIGIN_ASSOCIATIONS"
  | .retrieveOriginApplications => "RETRIEVE_ORIGIN_APPLICATIONS"
  | .resolveTenant => "RESOLVE_TENANT"
  | .resolveApplication => "RESOLVE_APPLICATION"

def all : List StoreOperation :=
  [.retrieveOrigins, .addOrigins, .deleteOriginAssociations, .retrieveOriginApplications, .resolveTenant,
    .resolveApplication]

def ofName? (s : String) : Option StoreOperation := all.find? fun operation => operation.name = s

end StoreOperation

inductive StorageError
  | operationFailed (operation : StoreOperation) (key message : String)
  | notFound (entityType entityId : String)
  | connection (message : String)
  | other (message : String)
  deriving DecidableEq, Repr

namespace StorageError

def message : StorageError → String
  | .operationFailed operation key message => s!"Failed to {operation.describe} for {key}: {message}"
  | .notFound entityType entityId => s!"Entity not found: {entityType} with id {entityId}"
  | .connection message => s!"Connection error: {message}"
  | .other message => s!"Storage error: {message}"

/-- Two of the four kinds hold one unnamed text, which the written form has no place for. -/
def toJson : StorageError → Except Json.Error Json
  | .operationFailed operation key message => .ok (.object
      [("type", .text "OPERATION_FAILED"), ("operation", .text operation.name), ("key", .text key),
        ("message", .text message)])
  | .notFound entityType entityId => .ok (.object
      [("type", .text "NOT_FOUND"), ("entity_type", .text entityType), ("entity_id", .text entityId)])
  | .connection _ => .error
      ⟨.malformed "cannot serialize tagged newtype variant StorageError::ConnectionError containing a string",
        none⟩
  | .other _ => .error
      ⟨.malformed "cannot serialize tagged newtype variant StorageError::Other containing a string", none⟩

def schema : Json.Schema :=
  .variants "internally tagged enum StorageError" "type"
    [("OPERATION_FAILED", .record "struct variant StorageError::OperationFailed"
        [("operation", .choice (StoreOperation.all.map StoreOperation.name), .refused),
          ("key", .text, .refused), ("message", .text, .refused)]),
      ("NOT_FOUND", .record "struct variant StorageError::NotFound"
        [("entity_type", .text, .refused), ("entity_id", .text, .refused)]),
      ("CONNECTION_ERROR", .text),
      ("OTHER", .text)]

def ofJson? (v : Json) : Option StorageError := do
  let text (name : String) := v.field? Json.textCodec name
  match ← text "type" with
  | "OPERATION_FAILED" =>
    some (.operationFailed (← StoreOperation.ofName? (← text "operation")) (← text "key") (← text "message"))
  | "NOT_FOUND" => some (.notFound (← text "entity_type") (← text "entity_id"))
  | _ => none

def decoder : Json.Decoder StorageError := { schema, ofJson? }

end StorageError

end OriginRegistry
