import OriginRegistry.Text.Digit

/-!
Percent-decoding. Encoded bytes have to form UTF-8 among themselves: a character that is written out starts a
sequence of its own and ends the one before.
-/

set_option autoImplicit false

namespace OriginRegistry.Text

inductive Piece
  | char (c : Char)
  | byte (n : Nat)
  deriving DecidableEq, Repr

/-- A percent sign counts as itself unless two hexadecimal digits follow. -/
def pieces : List Char → List Piece
  | [] => []
  | '%' :: a :: b :: cs =>
    match hexDigit? a, hexDigit? b with
    | some high, some low => .byte (16 * high + low) :: pieces cs
    | _, _ => .char '%' :: pieces (a :: b :: cs)
  | c :: cs => .char c :: pieces cs

/-- The first bytes of a character: their number, the value so far, how many more are due, and the bounds of
    the next one. -/
structure Begun where
  size : Nat
  value : Nat
  missing : Nat
  least : Nat
  greatest : Nat
  deriving DecidableEq, Repr

/-- Begins a character of more than one byte. The bounds keep out what is longer than it need be, halves of
    pairs, and values above the last character. -/
def Begun.of? (n : Nat) : Option Begun :=
  if n < 0xc2 then none
  else if n < 0xe0 then some ⟨1, n - 0xc0, 1, 0x80, 0xbf⟩
  else if n = 0xe0 then some ⟨1, 0, 2, 0xa0, 0xbf⟩
  else if n = 0xed then some ⟨1, 13, 2, 0x80, 0x9f⟩
  else if n < 0xf0 then some ⟨1, n - 0xe0, 2, 0x80, 0xbf⟩
  else if n = 0xf0 then some ⟨1, 0, 3, 0x90, 0xbf⟩
  else if n < 0xf4 then some ⟨1, n - 0xf0, 3, 0x80, 0xbf⟩
  else if n = 0xf4 then some ⟨1, 4, 3, 0x80, 0x8f⟩
  else none

def Begun.extend? (b : Begun) (n : Nat) : Option Begun :=
  if b.least ≤ n ∧ n ≤ b.greatest then
    some ⟨b.size + 1, 64 * b.value + (n - 0x80), b.missing - 1, 0x80, 0xbf⟩
  else none

/-- A character, or bytes that belong to none. `cut` tells that the text ended before the character did. -/
inductive Reading
  | char (c : Char)
  | broken (size : Nat) (cut : Bool)
  deriving DecidableEq, Repr

def fresh (n : Nat) : Reading ⊕ Begun :=
  if n < 0x80 then .inl (.char (Char.ofNat n))
  else
    match Begun.of? n with
    | some b => .inr b
    | none => .inl (.broken 1 false)

def readings : Option Begun → List Piece → List Reading
  | none, [] => []
  | some b, [] => [.broken b.size true]
  | none, .char c :: ps => .char c :: readings none ps
  | some b, .char c :: ps => .broken b.size false :: .char c :: readings none ps
  | none, .byte n :: ps =>
    match fresh n with
    | .inl r => r :: readings none ps
    | .inr b => readings (some b) ps
  | some b, .byte n :: ps =>
    match b.extend? n with
    | some b => if b.missing = 0 then .char (Char.ofNat b.value) :: readings none ps else readings (some b) ps
    | none =>
      match fresh n with
      | .inl r => .broken b.size false :: r :: readings none ps
      | .inr c => .broken b.size false :: readings (some c) ps

structure BrokenBytes where
  index : Nat
  size : Nat
  cut : Bool
  deriving DecidableEq, Repr

def BrokenBytes.message (e : BrokenBytes) : String :=
  if e.cut then s!"incomplete utf-8 byte sequence from index {e.index}"
  else s!"invalid utf-8 sequence of {e.size} bytes from index {e.index}"

def allCharacters (index : Nat) : List Reading → Except BrokenBytes (List Char)
  | [] => .ok []
  | .char c :: rs => (allCharacters (index + c.utf8Size) rs).map (c :: ·)
  | .broken size cut :: _ => .error ⟨index, size, cut⟩

def percentDecode (cs : List Char) : Except BrokenBytes (List Char) :=
  allCharacters 0 (readings none (pieces cs))

def Reading.character : Reading → Char
  | .char c => c
  | .broken _ _ => '\ufffd'

def percentDecodeLossy (cs : List Char) : List Char :=
  (readings none (pieces cs)).map Reading.character

end OriginRegistry.Text
