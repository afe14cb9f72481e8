import OriginRegistry.Host.IPv4

set_option autoImplicit false

namespace OriginRegistry.Host.IPv6

def group? (cs : List Char) : Option Nat :=
  if 1 ≤ cs.length && cs.length ≤ 4 then IPv4.digits? 16 0 cs else none

def byte? (cs : List Char) : Option Nat :=
  match cs with
  | [] => none
  | ['0'] => some 0
  | '0' :: _ => none
  | _ =>
    match IPv4.digits? 10 0 cs with
    | some n => if n < 256 then some n else none
    | none => none

def embedded? (cs : List Char) : Option (List Nat) :=
  match (Text.splitOn '.' cs).map byte? with
  | [some a, some b, some c, some d] => some [a * 256 + b, c * 256 + d]
  | _ => none

/-- Groups between colons. Only the last may be an embedded address, and only at the end of all. -/
def groups? (atEnd : Bool) : List (List Char) → Option (List Nat)
  | [] => some []
  | [g] =>
    match group? g with
    | some n => some [n]
    | none => if atEnd then embedded? g else none
  | g :: gs =>
    match group? g, groups? atEnd gs with
    | some n, some ns => some (n :: ns)
    | _, _ => none

def side? (atEnd : Bool) (cs : List Char) : Option (List Nat) :=
  if cs.isEmpty then some [] else groups? atEnd (Text.splitOn ':' cs)

def splitGap : List Char → Option (List Char × List Char)
  | ':' :: ':' :: cs => some ([], cs)
  | c :: cs => (splitGap cs).map fun (before, after) => (c :: before, after)
  | [] => none

def parse? (cs : List Char) : Option (List Nat) :=
  match splitGap cs with
  | none =>
    match side? true cs with
    | some gs => if gs.length = 8 then some gs else none
    | none => none
  | some (before, after) =>
    match side? false before, side? true after with
    | some bs, some as =>
      if bs.length + as.length < 8 then
        some (bs ++ List.replicate (8 - bs.length - as.length) 0 ++ as)
      else none
    | _, _ => none

def zerosAt (gs : List Nat) (i : Nat) : Nat := ((gs.drop i).takeWhile (· == 0)).length

/-- Start of the first of the longest runs of zeros. -/
def longestRun (gs : List Nat) : Nat :=
  (List.range gs.length).foldl (fun best i => if zerosAt gs best < zerosAt gs i then i else best) 0

def joinGroups (gs : List Nat) : List Char := Text.joinWith ':' (gs.map (Nat.toDigits 16))

/-- The groups in hexadecimal, with `::` for the first longest run of two zeros or more. -/
def text (gs : List Nat) : List Char :=
  let start := longestRun gs
  let count := zerosAt gs start
  if count < 2 then joinGroups gs
  else joinGroups (gs.take start) ++ [':', ':'] ++ joinGroups (gs.drop (start + count))

end OriginRegistry.Host.IPv6
