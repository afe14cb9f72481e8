import OriginRegistry.Json.Codec

set_option autoImplicit false

namespace OriginRegistry

/-- The settings of one tenant. `maxAge` is how many seconds a browser may keep an answer; a negative one
    stands for no such limit being sent. -/
structure Policy where
  allowGenericRequests : Bool := true
  allowAnyOrigin : Bool := false
  allowSubdomains : Bool := false
  supportedMethods : List String := ["GET", "POST", "HEAD", "OPTIONS"]
  supportAnyHeader : Bool := true
  supportedHeaders : List String := []
  exposedHeaders : List String := []
  supportsCredentials : Bool := false
  maxAge : Int64 := 3600
  deriving DecidableEq, Repr

namespace Policy

def standard : Policy := {}

def members (p : Policy) : List (String × Json) :=
  [("allow_generic_http_requests", .boolean p.allowGenericRequests),
    ("allow_any_origin", .boolean p.allowAnyOrigin),
    ("allow_subdomains", .boolean p.allowSubdomains),
    ("supported_methods", .texts p.supportedMethods),
    ("support_any_header", .boolean p.supportAnyHeader),
    ("supported_headers", .texts p.supportedHeaders),
    ("exposed_headers", .texts p.exposedHeaders),
    ("supports_credentials", .boolean p.supportsCredentials),
    ("max_age", .ofInt64 p.maxAge)]

def fieldSchema (name : String) : Json.Schema :=
  if name = "max_age" then .integer
  else if name = "supported_methods" ∨ name = "supported_headers" ∨ name = "exposed_headers" then .list .text
  else .boolean

def fields : Json.Schema.Fields :=
  standard.members.map fun (name, value) => (name, fieldSchema name, .default value)

def codec : Json.Codec Policy :=
  { schema := .record "struct CorsConfiguration" fields
    ofJson? := fun v => do
      let boolean (name : String) := v.member? name >>= Json.boolean?
      let texts (name : String) := v.member? name >>= Json.texts?
      some
        { allowGenericRequests := ← boolean "allow_generic_http_requests"
          allowAnyOrigin := ← boolean "allow_any_origin"
          allowSubdomains := ← boolean "allow_subdomains"
          supportedMethods := ← texts "supported_methods"
          supportAnyHeader := ← boolean "support_any_header"
          supportedHeaders := ← texts "supported_headers"
          exposedHeaders := ← texts "exposed_headers"
          supportsCredentials := ← boolean "supports_credentials"
          maxAge := ← v.member? "max_age" >>= Json.int64? }
    toJson := fun p => .object p.members }

end Policy

end OriginRegistry
