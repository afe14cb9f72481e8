import OriginRegistry.Host.Punycode
import OriginRegistry.Text.Split
import OriginRegistry.Unicode.Composition
import OriginRegistry.Unicode.Direction
import OriginRegistry.Unicode.HostMapping
import OriginRegistry.Unicode.Joining
import OriginRegistry.Unicode.Mark

/-!
International domain names in ASCII. A name is mapped and composed, split into labels at its dots, and
each label that is not ASCII is written as `xn--` and its Punycode. A label that comes in that form has to
be the form of a label that would be written so.
-/

set_option autoImplicit false

namespace OriginRegistry.Host.Domain

open Unicode

/-- Characters that no host holds: controls, the space, and those that delimit the parts of an address or
    are reserved. -/
def isForbidden (c : Char) : Bool :=
  c.toNat ≤ 32 || c.toNat == 127 ||
    ['#', '%', '/', ':', '<', '>', '?', '@', '[', '\\', ']', '^', '|'].contains c

def mapChar (c : Char) : Option (List Char) :=
  match HostMapping.apply c with
  | .kept => some [c]
  | .dropped => some []
  | .replaced cs => some cs
  | .refused => none

def mapAll : List Char → Option (List Char)
  | [] => some []
  | c :: cs =>
    match mapChar c, mapAll cs with
    | some a, some b => some (a ++ b)
    | _, _ => none

def mapped (cs : List Char) : Option (List Char) := (mapAll cs).map Composition.compose

def isAscii (cs : List Char) : Bool := cs.all fun c => c.toNat < 128

def encodedMark : List Char := ['x', 'n', '-', '-']

/-- The longest label, beyond ASCII, that is written; and the longest that is read. -/
def maxWritten : Nat := 1000
def maxRead : Nat := 2000

/-- What a label beyond ASCII has to satisfy: it is its own mapped and composed form, starts with neither a
    mark nor `xn--`, and its joiners stand where they may. -/
def validUnicode (label : List Char) : Bool :=
  mapped label == some label && !encodedMark.isPrefixOf label &&
    !label.head?.any isMark && Joining.wellPlaced label

/-- The Unicode form of a label of a mapped name: the label itself unless it is written in ASCII. -/
def unicodeLabel (label : List Char) : Option (List Char) :=
  if encodedMark.isPrefixOf label then
    let code := label.drop 4
    if isAscii code && code.getLast? != none && code.getLast? != some '-' &&
        code.length ≤ maxRead then
      match Punycode.decode code with
      | some u => if validUnicode u then some u else none
      | none => none
    else none
  else if isAscii label then some label
  else if validUnicode label && label.length ≤ maxWritten then some label
  else none

def asciiLabel (label : List Char) : List Char :=
  if isAscii label then label else encodedMark ++ Punycode.encode label

def unicodeLabels : List (List Char) → Option (List (List Char))
  | [] => some []
  | l :: ls =>
    match unicodeLabel l, unicodeLabels ls with
    | some u, some us => some (u :: us)
    | _, _ => none

def isBidirectional (us : List (List Char)) : Bool :=
  us.any fun u => u.any fun c => (Direction.ofChar c).isRightToLeft

def toAscii (cs : List Char) : Option (List Char) :=
  match mapped cs with
  | none => none
  | some m =>
    if m.any isForbidden then none
    else
      match unicodeLabels (Text.splitOn '.' m) with
      | none => none
      | some us =>
        if isBidirectional us && !us.all Direction.wellFormed then none
        else some (Text.joinWith '.' (us.map asciiLabel))

end OriginRegistry.Host.Domain
