/-!
Punycode: a text is written as its ASCII characters followed by instructions that insert the others, in
the order of their code points and from left to right. The instructions are numbers in base thirty-six
whose digits end by a threshold that adapts to the numbers written before.
-/

set_option autoImplicit false

namespace OriginRegistry.Host.Punycode

structure Insertion where
  code : Nat
  position : Nat
  deriving DecidableEq, Repr

/-- The last of the greatest characters beyond ASCII, scanning from position `i`; `best` is the one found
    so far. -/
def lastGreatest (best : Option Insertion) (i : Nat) : List Char → Option Insertion
  | [] => best
  | c :: cs =>
    let beats := 128 ≤ c.toNat && (match best with
      | none => true
      | some b => b.code ≤ c.toNat)
    lastGreatest (if beats then some ⟨c.toNat, i⟩ else best) (i + 1) cs

def insertionsBackward (cs : List Char) : List Insertion :=
  match lastGreatest none 0 cs with
  | none => []
  | some b =>
    if _h : b.position < cs.length then b :: insertionsBackward (cs.eraseIdx b.position) else []
termination_by cs.length
decreasing_by simp [List.length_eraseIdx, _h]; omega

def insertions (cs : List Char) : List Insertion := (insertionsBackward cs).reverse

def basic (cs : List Char) : List Char := cs.filter fun c => c.toNat < 128

def digitChar (d : Nat) : Char :=
  if d < 26 then Char.ofNat ('a'.toNat + d) else Char.ofNat ('0'.toNat + (d - 26))

def digitValue? (c : Char) : Option Nat :=
  if 'a' ≤ c ∧ c ≤ 'z' then some (c.toNat - 'a'.toNat)
  else if 'A' ≤ c ∧ c ≤ 'Z' then some (c.toNat - 'A'.toNat)
  else if '0' ≤ c ∧ c ≤ '9' then some (c.toNat - '0'.toNat + 26)
  else none

def threshold (k bias : Nat) : Nat :=
  if k ≤ bias then 1 else if bias + 26 ≤ k then 26 else k - bias

theorem threshold_bounds (k bias : Nat) : 1 ≤ threshold k bias ∧ threshold k bias ≤ 26 := by
  unfold threshold
  split
  · omega
  · split <;> omega

def shrink (delta k : Nat) : Nat × Nat :=
  if 455 < delta then shrink (delta / 35) (k + 36) else (delta, k)
termination_by delta
decreasing_by omega

def adapt (delta count : Nat) (first : Bool) : Nat :=
  let halved := if first then delta / 700 else delta / 2
  let (rest, k) := shrink (halved + halved / count) 0
  k + 36 * rest / (rest + 38)

def digits (bias k n : Nat) : List Char :=
  let t := threshold k bias
  if n < t then [digitChar n]
  else digitChar (t + (n - t) % (36 - t)) :: digits bias (k + 36) ((n - t) / (36 - t))
termination_by n
decreasing_by
  have h := threshold_bounds k bias
  have : (n - threshold k bias) / (36 - threshold k bias) ≤ n - threshold k bias := Nat.div_le_self _ _
  omega

/-- Reads one number: its value times `weight` on top of `sum`, and what follows it. -/
def number? (bias : Nat) : List Char → Nat → Nat → Nat → Option (Nat × List Char)
  | [], _, _, _ => none
  | c :: cs, k, weight, sum =>
    match digitValue? c with
    | none => none
    | some d =>
      let t := threshold k bias
      if d < t then some (sum + d * weight, cs)
      else number? bias cs (k + 36) (weight * (36 - t)) (sum + d * weight)

theorem number?_length {bias : Nat} {cs : List Char} {k weight sum n : Nat} {rest : List Char}
    (h : number? bias cs k weight sum = some (n, rest)) : rest.length < cs.length := by
  induction cs generalizing k weight sum with
  | nil => simp [number?] at h
  | cons c cs ih =>
    simp only [number?] at h
    split at h
    · simp at h
    · split at h
      · simp only [Option.some.injEq, Prod.mk.injEq] at h
        simp [← h.2]
      · have := ih h
        simp
        omega

/-- Writes insertions in order. The text so far holds `length` characters, the insertion before was of
    `code` and left the position at `position`. -/
def writeFrom (bias length code position : Nat) (first : Bool) : List Insertion → List Char
  | [] => []
  | x :: xs =>
    let delta := (x.code - code) * (length + 1) + x.position - position
    digits bias 36 delta ++
      writeFrom (adapt delta (length + 1) first) (length + 1) x.code (x.position + 1) false xs

def encode (cs : List Char) : List Char :=
  let b := basic cs
  b ++ (if b.isEmpty then [] else ['-']) ++ writeFrom 72 b.length 128 0 true (insertions cs)

def readFrom (bias code position : Nat) (first : Bool) (out : List Char) (cs : List Char) :
    Option (List Char) :=
  match cs with
  | [] => some out
  | c :: rest =>
    match _h : number? bias (c :: rest) 36 1 position with
    | none => none
    | some (n, rest') =>
      let count := out.length + 1
      let code' := code + n / count
      if code'.isValidChar then
        readFrom (adapt (n - position) count first) code' (n % count + 1) false
          (out.insertIdx (n % count) (Char.ofNat code')) rest'
      else none
termination_by cs.length
decreasing_by simpa using number?_length _h

/-- Splits at the last hyphen. A hyphen that nothing precedes is no delimiter. -/
def splitBasic (cs : List Char) : List Char × List Char :=
  match cs.reverse.span (· != '-') with
  | (tail, _ :: head) => if head.isEmpty then ([], cs) else (head.reverse, tail.reverse)
  | (_, []) => ([], cs)

def decode (cs : List Char) : Option (List Char) :=
  let (b, rest) := splitBasic cs
  readFrom 72 128 0 true b rest

end OriginRegistry.Host.Punycode
