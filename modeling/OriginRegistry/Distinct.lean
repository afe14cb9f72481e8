set_option autoImplicit false

namespace OriginRegistry

def distinctAfter {α : Type} [BEq α] (seen : List α) : List α → List α
  | [] => []
  | x :: xs => if seen.contains x then distinctAfter seen xs else x :: distinctAfter (x :: seen) xs

/-- The first of equal items, in their order. -/
def distinct {α : Type} [BEq α] (xs : List α) : List α := distinctAfter [] xs

end OriginRegistry
