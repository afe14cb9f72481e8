set_option autoImplicit false

namespace OriginRegistry.Digest

abbrev Words := List UInt32

def isPrime (n : Nat) : Bool := 2 ≤ n && (List.range n).all fun d => d < 2 || n % d ≠ 0

def primes : List Nat := (List.range 312).filter isPrime

def rootBetween (degree n low high : Nat) : Nat → Nat
  | 0 => low
  | fuel + 1 =>
    let mid := (low + high) / 2
    if Nat.pow mid degree ≤ n then rootBetween degree n mid high fuel else rootBetween degree n low mid fuel

def rootFraction (degree n : Nat) : UInt32 :=
  UInt32.ofNat (rootBetween degree (n * Nat.pow 2 (32 * degree)) 0 (Nat.pow 2 40) 40)

/-- The state before the first block: fractions of the square roots of the first eight primes. -/
def start : Words := (primes.take 8).map (rootFraction 2)

/-- One constant for each round: fractions of the cube roots of the first 64 primes. -/
def constants : Words := primes.map (rootFraction 3)

def rotate (x : UInt32) (n : UInt32) : UInt32 := (x >>> n) ||| (x <<< (32 - n))

def scatterLow (x : UInt32) : UInt32 := rotate x 7 ^^^ rotate x 18 ^^^ (x >>> 3)
def scatterHigh (x : UInt32) : UInt32 := rotate x 17 ^^^ rotate x 19 ^^^ (x >>> 10)
def mixHigh (x : UInt32) : UInt32 := rotate x 6 ^^^ rotate x 11 ^^^ rotate x 25
def mixLow (x : UInt32) : UInt32 := rotate x 2 ^^^ rotate x 13 ^^^ rotate x 22

def choose (x y z : UInt32) : UInt32 := (x &&& y) ^^^ (~~~x &&& z)
def majority (x y z : UInt32) : UInt32 := (x &&& y) ^^^ (x &&& z) ^^^ (y &&& z)

def wordOf (a b c d : UInt8) : UInt32 :=
  (a.toUInt32 <<< 24) ||| (b.toUInt32 <<< 16) ||| (c.toUInt32 <<< 8) ||| d.toUInt32

def wordsOf : List UInt8 → Words
  | a :: b :: c :: d :: rest => wordOf a b c d :: wordsOf rest
  | _ => []

/-- The words of the rounds, the latest first; each further one is made of four earlier ones. -/
def extend (latest : Words) : Nat → Words
  | 0 => latest
  | rounds + 1 =>
    let at' (i : Nat) : UInt32 := latest.getD i 0
    extend ((at' 15 + scatterLow (at' 14) + at' 6 + scatterHigh (at' 1)) :: latest) rounds

def schedule (block : Words) : Words := (extend block.reverse 48).reverse

def round (state : Words) (input : UInt32 × UInt32) : Words :=
  match state with
  | [a, b, c, d, e, f, g, h] =>
    let t := h + mixHigh e + choose e f g + input.1 + input.2
    [t + mixLow a + majority a b c, a, b, c, d + t, e, f, g]
  | state => state

def compress (state block : Words) : Words :=
  List.zipWith (· + ·) state ((constants.zip (schedule block)).foldl round state)

def bigEndian (n : Nat) : Nat → List UInt8
  | 0 => []
  | count + 1 => UInt8.ofNat (n / Nat.pow 256 count) :: bigEndian n count

def pad (message : List UInt8) : List UInt8 :=
  message ++ 0x80 :: List.replicate ((119 - message.length % 64) % 64) 0 ++ bigEndian (8 * message.length) 8

def absorb (state : Words) (words : Words) : Nat → Words
  | 0 => state
  | blocks + 1 => absorb (compress state (words.take 16)) (words.drop 16) blocks

def sha256 (message : List UInt8) : List UInt8 :=
  let words := wordsOf (pad message)
  (absorb start words (words.length / 16)).flatMap fun w => bigEndian w.toNat 4

def hex (bytes : List UInt8) : String :=
  String.ofList (bytes.flatMap fun b => [Nat.digitChar (b.toNat / 16), Nat.digitChar (b.toNat % 16)])

def hexOfText (text : String) : String := hex (sha256 text.toUTF8.toList)

end OriginRegistry.Digest
