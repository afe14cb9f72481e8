import OriginRegistry.Json.Printer
import OriginRegistry.Provision.Connect
import OriginRegistry.Settings

set_option autoImplicit false

namespace OriginRegistry.Provision

inductive Failure
  | settings (e : Settings.InvalidValue)
  | database (url : String) (e : StorageError)
  deriving DecidableEq, Repr

namespace Failure

def headline : Failure → String
  | .settings _ => "Failed to load settings"
  | .database url _ => s!"Failed to prepare database {url}"

def cause : Failure → String
  | .settings e => e.message
  | .database _ e => e.message

def linesOf (s : String) : List String := (Text.splitOn '\n' s.toList).map String.ofList

def report (f : Failure) : List String :=
  linesOf s!"Error: {f.headline}" ++ ["", "Caused by:"] ++
    (linesOf f.cause).map fun line => s!"    {line}"

end Failure

def prepareDatabase (s : Settings) : Action Surroundings Failure Pool := do
  record "cors_management::api::middleware::observability"
    s!"Tracing initialized ({s.logFormat.name} format)"
  record "cors_mgt"
    s!"Starting cors-mgt (database: {s.databaseUrl}, max connections: {s.maxConnections.toNat})"
  let pool ← (connect s.databaseUrl).mapError (.database s.databaseUrl)
  record "cors_mgt" "CORS management schema is up to date"
  return pool

structure Outcome where
  format : LogFormat
  records : List Log.Record
  failure : Option Failure
  files : Files
  deriving Repr

def line (r : Log.Record) : LogFormat → String
  | .text => s!" INFO {r.target}: {r.message}"
  | .json => (Json.object
      [("level", .text "INFO"), ("fields", .object [("message", .text r.message)]),
        ("target", .text r.target)]).print

namespace Outcome

def exitCode (o : Outcome) : Nat := if o.failure.isSome then 1 else 0

def report (o : Outcome) : List String := (o.failure.map Failure.report).getD []

def lines (o : Outcome) : List String := (o.records.map fun r => line r o.format) ++ o.report

end Outcome

def filterKey : String := "RUST_LOG"

def keys : List String :=
  [Settings.Setting.databaseUrl, .maxConnections, .logFormat].map Settings.Setting.key ++ [filterKey]

def path? (lookup : String → Option String) (current : List String) : Option (List String) :=
  match Settings.ofLookup fun setting => lookup setting.key with
  | .error _ => none
  | .ok settings =>
    match (DatabaseUrl.parse settings.databaseUrl).toOption.map place with
    | some (.ok (.file name)) => some (Files.resolve current name)
    | _ => none

def run (lookup : String → Option String) (files : Files) : Outcome :=
  match Settings.ofLookup fun setting => lookup setting.key with
  | .error e => ⟨.text, [], some (.settings e), files⟩
  | .ok settings =>
    let filter := Log.Filter.ofVariable (lookup filterKey)
    let (result, after) := (prepareDatabase settings).run ⟨files, []⟩
    let failure :=
      match result with
      | .ok _ => none
      | .error failure => some failure
    ⟨settings.logFormat, after.records.filter filter.shows, failure, after.files⟩

end OriginRegistry.Provision
