import OriginRegistry.Json.Codec

set_option autoImplicit false

namespace OriginRegistry

structure TenantId where
  val : Int64
  deriving DecidableEq, Repr

structure ApplicationId where
  val : Int64
  deriving DecidableEq, Repr

/-- Later origins have greater keys. -/
structure OriginId where
  val : Int64
  deriving DecidableEq, Repr

/-- What callers know an origin by. -/
structure ExternalId where
  val : String
  deriving DecidableEq, Repr

def keyText (n : Int64) : String := toString n.toInt

instance : ToString TenantId := ⟨fun id => keyText id.val⟩
instance : ToString ApplicationId := ⟨fun id => keyText id.val⟩
instance : ToString OriginId := ⟨fun id => keyText id.val⟩
instance : ToString ExternalId := ⟨fun id => id.val⟩

def TenantId.codec : Json.Codec TenantId := Json.int64Codec.wrap .mk TenantId.val
def ApplicationId.codec : Json.Codec ApplicationId := Json.int64Codec.wrap .mk ApplicationId.val
def OriginId.codec : Json.Codec OriginId := Json.int64Codec.wrap .mk OriginId.val
def ExternalId.codec : Json.Codec ExternalId := Json.textCodec.wrap .mk ExternalId.val

end OriginRegistry
