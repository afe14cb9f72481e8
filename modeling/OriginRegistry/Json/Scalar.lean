import OriginRegistry.Json.Basic
import OriginRegistry.Json.Fault
import OriginRegistry.Text.Digit
import OriginRegistry.Text.Length

set_option autoImplicit false

namespace OriginRegistry.Json

open Text (isDigit digitValue)

abbrev Reader (α : Type) := List Char → Except Refusal (α × List Char)

def stop {α : Type} (fault : Fault) (rest : List Char) : Except Refusal α :=
  .error ⟨fault, some ⟨rest, 0⟩⟩

def stopPast {α : Type} (fault : Fault) (rest : List Char) : Except Refusal α :=
  .error ⟨fault, some ⟨rest, 1⟩⟩

def isBlank (c : Char) : Bool := c = ' ' || c = '\n' || c = '\t' || c = '\r'

def skipBlanks (cs : List Char) : List Char := cs.dropWhile isBlank

def readWord : List Char → List Char → Except Refusal (List Char)
  | [], cs => .ok cs
  | _ :: _, [] => stop .endOfValue []
  | w :: word, c :: cs => if c = w then readWord word cs else stopPast .wordExpected (c :: cs)

inductive Number
  | integer (value : Int)
  | real (value : Decimal.Binary64)

def Number.toJson : Number → Json
  | .integer value => .integer value
  | .real value => .real value

def Number.found : Number → Found
  | .integer value => .integer value
  | .real value => .real value

def largestWord : Nat := 0xffffffffffffffff

/-- Appends digits to the value `n` as long as it fits in 64 bits: the value, how many digits there were, and
    what is left. -/
def readDigits (n : Nat) : List Char → Nat × Nat × List Char
  | [] => (n, 0, [])
  | c :: cs =>
    if isDigit c && 10 * n + digitValue c ≤ largestWord then
      let (m, count, rest) := readDigits (10 * n + digitValue c) cs
      (m, count + 1, rest)
    else (n, 0, c :: cs)

def nextIsDigit : List Char → Bool
  | c :: _ => isDigit c
  | [] => false

def nextIsExponent : List Char → Bool
  | c :: _ => c = 'e' || c = 'E'
  | [] => false

def realOf (negative : Bool) (significand : Nat) (exponent : Int) : Reader Number := fun rest =>
  match Decimal.Binary64.ofDigits? negative significand exponent with
  | some x => .ok (.real x, rest)
  | none => stop .numberOutOfRange rest

def largestExponent : Nat := 0x7fffffff

/-- Appends digits to an exponent; `none` after the digit with which it is too large. -/
def readExponentDigits (n : Nat) : List Char → Option Nat × List Char
  | [] => (some n, [])
  | c :: cs =>
    if isDigit c then
      if largestExponent < 10 * n + digitValue c then (none, cs)
      else readExponentDigits (10 * n + digitValue c) cs
    else (some n, c :: cs)

def readExponent (negative : Bool) (significand : Nat) (exponent : Int) : Reader Number := fun cs =>
  let (raise, cs) :=
    match cs with
    | '+' :: cs => (true, cs)
    | '-' :: cs => (false, cs)
    | cs => (true, cs)
  match cs with
  | [] => stop .endOfValue []
  | c :: rest =>
    if !isDigit c then stopPast .invalidNumber (c :: rest)
    else
      match readExponentDigits (digitValue c) rest with
      | (some n, rest) => realOf negative significand (if raise then exponent + n else exponent - n) rest
      | (none, rest) =>
        if raise && significand ≠ 0 then stop .numberOutOfRange rest
        else .ok (.real (.zero negative), rest.dropWhile isDigit)

def readFraction (negative : Bool) (significand : Nat) (exponent : Int) : Reader Number := fun cs =>
  let (m, count, rest) := readDigits significand cs
  if count = 0 ∧ !nextIsDigit rest then
    if rest.isEmpty then stop .endOfValue rest else stopPast .invalidNumber rest
  else
    let rest := rest.dropWhile isDigit
    if nextIsExponent rest then readExponent negative m (exponent - count) rest.tail
    else realOf negative m (exponent - count) rest

/-- A whole number is kept as such if it fits in 64 bits, and minus zero is not whole. -/
def wholeOf (negative : Bool) (n : Nat) : Reader Number := fun rest =>
  if !negative then .ok (.integer n, rest)
  else if 0 < n ∧ n ≤ 0x8000000000000000 then .ok (.integer (-n), rest)
  else realOf true n 0 rest

def readNumber (negative : Bool) : Reader Number := fun cs =>
  match cs with
  | [] => stop .endOfValue []
  | c :: tail =>
    if !isDigit c then stopPast .invalidNumber cs
    else if c = '0' ∧ nextIsDigit tail then stopPast .invalidNumber tail
    else
      let (n, _, rest) := readDigits 0 cs
      let dropped := rest.takeWhile isDigit
      let rest := rest.dropWhile isDigit
      match rest with
      | '.' :: rest => readFraction negative n dropped.length rest
      | rest =>
        if nextIsExponent rest then readExponent negative n dropped.length rest.tail
        else if dropped.isEmpty then wholeOf negative n rest
        else realOf negative n dropped.length rest

/-- Skips a number after its sign; its size does not matter. -/
def skipNumber (cs : List Char) : Except Refusal (List Char) :=
  let skipExponent (cs : List Char) : Except Refusal (List Char) :=
    let cs :=
      match cs with
      | '+' :: cs => cs
      | '-' :: cs => cs
      | cs => cs
    if nextIsDigit cs then .ok (cs.dropWhile isDigit) else stopPast .invalidNumber cs
  match cs with
  | [] => stopPast .invalidNumber []
  | c :: tail =>
    if !isDigit c then stopPast .invalidNumber cs
    else if c = '0' ∧ nextIsDigit tail then stopPast .invalidNumber tail
    else
      match cs.dropWhile isDigit with
      | '.' :: rest =>
        if nextIsDigit rest then
          let rest := rest.dropWhile isDigit
          if nextIsExponent rest then skipExponent rest.tail else .ok rest
        else stopPast .invalidNumber rest
      | rest => if nextIsExponent rest then skipExponent rest.tail else .ok rest

def hexFour (cs : List Char) : Except Refusal Nat :=
  match cs with
  | a :: b :: c :: d :: _ =>
    match Text.hexDigit? a, Text.hexDigit? b, Text.hexDigit? c, Text.hexDigit? d with
    | some a, some b, some c, some d => .ok (((a * 16 + b) * 16 + c) * 16 + d)
    | _, _, _, _ => .error ⟨.invalidEscape, some ⟨cs, 4⟩⟩
  | _ => if Text.byteLength cs < 4 then stop .endOfText [] else .error ⟨.invalidEscape, some ⟨cs, 4⟩⟩

def escaped? (c : Char) : Option Char :=
  if c = '"' ∨ c = '\\' ∨ c = '/' then some c
  else if c = 'b' then some '\x08'
  else if c = 'f' then some '\x0c'
  else if c = 'n' then some '\n'
  else if c = 'r' then some '\r'
  else if c = 't' then some '\t'
  else none

def isLeading (n : Nat) : Bool := 0xd800 ≤ n && n ≤ 0xdbff

def isTrailing (n : Nat) : Bool := 0xdc00 ≤ n && n ≤ 0xdfff

def startingWith (c : Char) (tail : Except Refusal (List Char × List Char)) :
    Except Refusal (List Char × List Char) :=
  tail.map fun (cs, rest) => (c :: cs, rest)

def readChars : List Char → Except Refusal (List Char × List Char)
  | [] => stop .endOfText []
  | '"' :: rest => .ok ([], rest)
  | '\\' :: 'u' :: rest =>
    match hexFour rest with
    | .error refusal => .error refusal
    | .ok n =>
      if isTrailing n then stop .loneSurrogate (rest.drop 4)
      else
        match rest with
        | _ :: _ :: _ :: _ :: rest =>
          if !isLeading n then startingWith (Char.ofNat n) (readChars rest)
          else
            match rest with
            | '\\' :: 'u' :: rest =>
              match hexFour rest with
              | .error refusal => .error refusal
              | .ok m =>
                if !isTrailing m then stop .loneSurrogate (rest.drop 4)
                else
                  match rest with
                  | _ :: _ :: _ :: _ :: rest =>
                    startingWith (Char.ofNat ((n - 0xd800) * 1024 + (m - 0xdc00) + 0x10000))
                      (readChars rest)
                  | _ => stop .endOfText []
            | [] => stop .endOfText []
            | ['\\'] => stop .endOfText []
            | '\\' :: rest => stopPast .surrogateExpected rest
            | rest => stopPast .surrogateExpected rest
        | _ => stop .endOfText []
  | '\\' :: c :: rest =>
    match escaped? c with
    | some d => startingWith d (readChars rest)
    | none => stopPast .invalidEscape (c :: rest)
  | ['\\'] => stop .endOfText []
  | c :: rest =>
    if c.toNat < 32 then stopPast .controlCharacter (c :: rest) else startingWith c (readChars rest)

def readText : Reader String := fun cs =>
  (readChars cs).map fun (content, rest) => (String.ofList content, rest)

/-- Skips a string after its first quote; surrogates need not be paired. -/
def skipChars : List Char → Except Refusal (List Char)
  | [] => stop .endOfText []
  | '"' :: rest => .ok rest
  | '\\' :: 'u' :: rest =>
    match hexFour rest with
    | .error refusal => .error refusal
    | .ok _ =>
      match rest with
      | _ :: _ :: _ :: _ :: rest => skipChars rest
      | _ => stop .endOfText []
  | '\\' :: c :: rest =>
    match escaped? c with
    | some _ => skipChars rest
    | none => stopPast .invalidEscape (c :: rest)
  | ['\\'] => stop .endOfText []
  | c :: rest => if c.toNat < 32 then stop .controlCharacter (c :: rest) else skipChars rest

end OriginRegistry.Json
