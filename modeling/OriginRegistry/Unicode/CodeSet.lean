import OriginRegistry.Text.Split

/-!
Sets of code points as ascending ranges, written as text: `41-5a 61 63` holds `41` to `5a`, `61` and
`63`, all hexadecimal, with spaces and line breaks between them. Membership is a binary search.
-/

set_option autoImplicit false

namespace OriginRegistry.Unicode

def hexDigitValue (c : Char) : Nat :=
  if c.isDigit then c.toNat - '0'.toNat
  else if 'a' ≤ c ∧ c ≤ 'f' then c.toNat - 'a'.toNat + 10
  else if 'A' ≤ c ∧ c ≤ 'F' then c.toNat - 'A'.toNat + 10
  else 0

def hexValue (digits : List Char) : Nat := digits.foldl (fun n c => 16 * n + hexDigitValue c) 0

def wordsFrom (word : List Char) : List Char → List (List Char)
  | [] => if word.isEmpty then [] else [word.reverse]
  | c :: cs =>
    if c = ' ' ∨ c = '\n' then if word.isEmpty then wordsFrom [] cs else word.reverse :: wordsFrom [] cs
    else wordsFrom (c :: word) cs

def words (text : String) : List (List Char) := wordsFrom [] text.toList

/-- Where the search between `lo` and `hi` ends: every index below has a key at most `n`. -/
def searchFloor {α : Type} (key : α → Nat) (a : Array α) (n lo hi : Nat) : Nat :=
  if _h : lo < hi then
    let mid := (lo + hi) / 2
    match a[mid]? with
    | none => lo
    | some x => if key x ≤ n then searchFloor key a n (mid + 1) hi else searchFloor key a n lo mid
  else lo
termination_by hi - lo
decreasing_by all_goals omega

def floor? {α : Type} (key : α → Nat) (a : Array α) (n : Nat) : Option α :=
  match searchFloor key a n 0 a.size with
  | 0 => none
  | i + 1 => a[i]?

structure CodeSet where
  ranges : Array (Nat × Nat)

def CodeSet.ofText (text : String) : CodeSet :=
  ⟨((words text).map fun range =>
    match Text.splitOn '-' range with
    | [first, last] => (hexValue first, hexValue last)
    | _ => (hexValue range, hexValue range)).toArray⟩

def CodeSet.contains (s : CodeSet) (n : Nat) : Bool :=
  match floor? Prod.fst s.ranges n with
  | none => false
  | some (_, last) => n ≤ last

end OriginRegistry.Unicode
