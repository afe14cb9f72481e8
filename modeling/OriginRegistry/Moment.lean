import OriginRegistry.Text.Blank
import OriginRegistry.Text.Digit
import OriginRegistry.Text.Length

/-!
Moments in universal time, with their texts. Reading is lenient: blanks may stand between the parts, numbers
need not be padded, the year may carry a sign, and any offset from universal time is accepted. Printing uses
one form, with `Z` for the offset and no more than the needed groups of three digits after the second.
-/

set_option autoImplicit false

namespace OriginRegistry

structure Day where
  year : Int
  month : Nat
  day : Nat
  deriving DecidableEq, Repr

/-- Seconds since midnight and nanoseconds; a leap second is the second before it with `10 ^ 9` nanoseconds
    more. -/
structure Moment where
  date : Day
  second : Nat
  nanosecond : Nat
  deriving DecidableEq, Repr

namespace Day

def isLeapYear (year : Int) : Bool := year % 4 = 0 && (year % 100 ≠ 0 || year % 400 = 0)

def daysInMonth (year : Int) (month : Nat) : Nat :=
  if month = 2 then if isLeapYear year then 29 else 28
  else if month = 4 ∨ month = 6 ∨ month = 9 ∨ month = 11 then 30
  else 31

def firstYear : Int := -262143
def lastYear : Int := 262142

def of? (year : Int) (month day : Nat) : Option Day :=
  if firstYear ≤ year ∧ year ≤ lastYear ∧ 1 ≤ month ∧ month ≤ 12 ∧ 1 ≤ day ∧
      day ≤ daysInMonth year month then
    some ⟨year, month, day⟩
  else none

def next? (d : Day) : Option Day :=
  if d.day < daysInMonth d.year d.month then some { d with day := d.day + 1 }
  else if d.month < 12 then some ⟨d.year, d.month + 1, 1⟩
  else if d.year < lastYear then some ⟨d.year + 1, 1, 1⟩
  else none

def previous? (d : Day) : Option Day :=
  if 1 < d.day then some { d with day := d.day - 1 }
  else if 1 < d.month then some ⟨d.year, d.month - 1, daysInMonth d.year (d.month - 1)⟩
  else if firstYear < d.year then some ⟨d.year - 1, 12, 31⟩
  else none

end Day

namespace Moment

open Text (isDigit digitValue)

inductive Fault
  | outOfRange
  | impossible
  | invalid
  | tooShort
  | tooLong
  deriving DecidableEq, Repr

def Fault.message : Fault → String
  | .outOfRange => "input is out of range"
  | .impossible => "no possible date and time matching input"
  | .invalid => "input contains invalid characters"
  | .tooShort => "premature end of input"
  | .tooLong => "trailing input"

def padded (width n : Nat) : List Char :=
  let ds := Nat.toDigits 10 n
  List.replicate (width - ds.length) '0' ++ ds

/-- Years of more than four digits, and those before the year 0, have a sign. -/
def yearText (year : Int) : List Char :=
  if 0 ≤ year ∧ year ≤ 9999 then padded 4 year.toNat
  else (if year < 0 then '-' else '+') :: padded 4 year.natAbs

def fractionText (nanosecond : Nat) : List Char :=
  if nanosecond = 0 then []
  else if nanosecond % 1000000 = 0 then '.' :: padded 3 (nanosecond / 1000000)
  else if nanosecond % 1000 = 0 then '.' :: padded 6 (nanosecond / 1000)
  else '.' :: padded 9 nanosecond

def chars (m : Moment) : List Char :=
  let leap := m.nanosecond / 1000000000
  yearText m.date.year ++ '-' :: padded 2 m.date.month ++ '-' :: padded 2 m.date.day ++
    'T' :: padded 2 (m.second / 3600) ++ ':' :: padded 2 (m.second / 60 % 60) ++
    ':' :: padded 2 (m.second % 60 + leap) ++ fractionText (m.nanosecond % 1000000000) ++ ['Z']

def text (m : Moment) : String := String.ofList m.chars

def largest : Nat := 0x7fffffffffffffff

def moreDigits (n : Nat) : Nat → List Char → Except Fault (Nat × List Char)
  | 0, cs => .ok (n, cs)
  | _ + 1, [] => .ok (n, [])
  | width + 1, c :: cs =>
    if isDigit c then
      let m := 10 * n + digitValue c
      if largest < m then .error .outOfRange else moreDigits m width cs
    else .ok (n, c :: cs)

def number (width : Nat) (cs : List Char) : Except Fault (Nat × List Char) :=
  match cs with
  | [] => .error .tooShort
  | c :: _ => if isDigit c then moreDigits 0 width cs else .error .invalid

def part (low high : Nat) (cs : List Char) : Except Fault (Nat × List Char) := do
  let (n, cs) ← number 2 (cs.dropWhile Text.isBlank)
  if low ≤ n ∧ n ≤ high then .ok (n, cs) else .error .outOfRange

def mark (c : Char) (cs : List Char) : Except Fault (List Char) :=
  match cs.dropWhile Text.isBlank with
  | [] => .error .tooShort
  | d :: rest => if d = c then .ok rest else .error .invalid

def year (cs : List Char) : Except Fault (Int × List Char) :=
  let fit (n : Int) (rest : List Char) : Except Fault (Int × List Char) :=
    if -0x80000000 ≤ n ∧ n < 0x80000000 then .ok (n, rest) else .error .outOfRange
  match cs.dropWhile Text.isBlank with
  | '-' :: rest => do
    let (n, rest) ← number rest.length rest
    fit (-n) rest
  | '+' :: rest => do
    let (n, rest) ← number rest.length rest
    fit n rest
  | rest => do
    let (n, rest) ← number 4 rest
    fit n rest

/-- Digits after the second's point; those after the ninth do not count. -/
def fraction (cs : List Char) : Except Fault (Nat × List Char) :=
  match cs with
  | '.' :: cs => do
    let (n, rest) ← number 9 cs
    .ok (n * Nat.pow 10 (9 - (cs.length - rest.length)), rest.dropWhile isDigit)
  | cs => .ok (0, cs)

def universalName? (cs : List Char) : Option (List Char) :=
  match cs with
  | u :: t :: c :: rest =>
    if [u.toLower, t.toLower, c.toLower] = ['u', 't', 'c'] then some rest else none
  | _ => none

def signedOffset (cs : List Char) : Except Fault (Nat × List Char) := do
  if Text.byteLength cs < 2 then throw .tooShort
  let hours ←
    match cs with
    | a :: b :: _ => if isDigit a && isDigit b then pure (10 * digitValue a + digitValue b) else throw .invalid
    | _ => throw .invalid
  let cs := (cs.drop 2).dropWhile fun c => c = ':' || Text.isBlank c
  if Text.byteLength cs < 2 then throw .tooShort
  match cs with
  | a :: b :: rest =>
    if isDigit a && isDigit b then
      if '6' ≤ a then throw .outOfRange
      else pure (hours * 3600 + (10 * digitValue a + digitValue b) * 60, rest)
    else throw .invalid
  | _ => throw .invalid

def offset (cs : List Char) : Except Fault (Int × List Char) :=
  match universalName? cs with
  | some rest => .ok (0, rest)
  | none =>
    match cs with
    | [] => .error .tooShort
    | c :: rest =>
      if c = 'Z' ∨ c = 'z' then .ok (0, rest)
      else if c = '+' then do
        let (n, rest) ← signedOffset rest
        .ok (n, rest)
      else if c = '-' ∨ c = '\u2212' then do
        let (n, rest) ← signedOffset rest
        .ok (-n, rest)
      else .error .invalid

/-- The moment that a clock `seconds` east of universal time shows as `date` and `second`. -/
def ofLocal (date : Day) (second nanosecond : Nat) (seconds : Int) : Except Fault Moment :=
  let shifted : Int := second - seconds
  let date? :=
    if shifted < 0 then date.previous?
    else if 86400 ≤ shifted then date.next?
    else some date
  match date? with
  | some date => .ok ⟨date, (shifted % 86400).toNat, nanosecond⟩
  | none => .error .impossible

def ofChars (cs : List Char) : Except Fault Moment := do
  let (y, cs) ← year cs
  let cs ← mark '-' cs
  let (m, cs) ← part 1 12 cs
  let cs ← mark '-' cs
  let (d, cs) ← part 1 31 cs
  let cs ←
    match cs with
    | [] => throw .tooShort
    | c :: cs => if c = 'T' ∨ c = 't' ∨ c = ' ' then pure cs else throw .invalid
  let (hour, cs) ← part 0 23 cs
  let cs ← mark ':' cs
  let (minute, cs) ← part 0 59 cs
  let cs ← mark ':' cs
  let (second, cs) ← part 0 60 cs
  let (nano, cs) ← fraction cs
  let (seconds, cs) ← offset (cs.dropWhile Text.isBlank)
  if !(cs.dropWhile Text.isBlank).isEmpty then throw .tooLong
  let (second, nano) := if second = 60 then (59, nano + 1000000000) else (second, nano)
  match Day.of? y m d with
  | none => throw .outOfRange
  | some date =>
    if 86400 ≤ seconds.natAbs then throw .outOfRange
    ofLocal date (3600 * hour + 60 * minute + second) nano seconds

def ofText (text : String) : Except Fault Moment := ofChars text.toList

end Moment

end OriginRegistry
