set_option autoImplicit false

namespace OriginRegistry.Text

def byteLength : List Char → Nat
  | [] => 0
  | c :: cs => c.utf8Size + byteLength cs

end OriginRegistry.Text
