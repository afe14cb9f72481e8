import OriginRegistry.Text.Digit
import OriginRegistry.Text.Split

/-!
Internet addresses of version 4. A name is meant as an address as soon as its last part is a number, in
decimal, in octal behind a zero or in hexadecimal behind `0x`; the last part fills all bytes that the parts
before it leave.
-/

set_option autoImplicit false

namespace OriginRegistry.Host.IPv4

/-- The parts of a name between dots, without an empty last one. -/
def parts (cs : List Char) : List (List Char) :=
  let ps := Text.splitOn '.' cs
  if ps.length > 1 && ps.getLast? == some [] then ps.dropLast else ps

def digit? (base : Nat) (c : Char) : Option Nat :=
  match Text.hexDigit? c with
  | some d => if d < base then some d else none
  | none => none

def digits? (base sum : Nat) : List Char → Option Nat
  | [] => some sum
  | c :: cs =>
    match digit? base c with
    | some d => digits? base (base * sum + d) cs
    | none => none

/-- Value of a part. A base mark without digits is zero. -/
def number? : List Char → Option Nat
  | [] => none
  | '0' :: 'x' :: cs => digits? 16 0 cs
  | '0' :: 'X' :: cs => digits? 16 0 cs
  | '0' :: cs => digits? 8 0 cs
  | cs => digits? 10 0 cs

def endsInNumber (cs : List Char) : Bool :=
  match (parts cs).getLast? with
  | none | some [] => false
  | some p => p.all Char.isDigit || (number? p).isSome

def numbers? : List (List Char) → Option (List Nat)
  | [] => some []
  | p :: ps =>
    match number? p, numbers? ps with
    | some n, some ns => some (n :: ns)
    | _, _ => none

/-- Puts numbers together into an address of `width` bytes, each number but the last one byte. -/
def combine? : Nat → List Nat → Option Nat
  | _, [] => none
  | width, [n] => if n < Nat.pow 256 width then some n else none
  | width, n :: ns =>
    if n < 256 then (combine? (width - 1) ns).map (n * Nat.pow 256 (width - 1) + ·) else none

def parse? (cs : List Char) : Option Nat :=
  let ps := parts cs
  if ps.length > 4 then none else (numbers? ps).bind (combine? 4)

def text (address : Nat) : List Char :=
  Text.joinWith '.' ([address / 0x1000000, address / 0x10000, address / 0x100, address].map fun n =>
    Nat.toDigits 10 (n % 256))

end OriginRegistry.Host.IPv4
