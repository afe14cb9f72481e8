import OriginRegistry.Text.Blank
import OriginRegistry.Text.Digit
import OriginRegistry.Text.Split

/-!
Records of a run, and which of them are shown. A filter is a list of directives between commas. A directive
names a part of the program and how much it may tell; of those that concern a part, the longest name counts.
-/

set_option autoImplicit false

namespace OriginRegistry.Log

structure Record where
  target : String
  message : String
  deriving DecidableEq, Repr

inductive Verbosity
  | off
  | error
  | warn
  | info
  | debug
  | trace
  deriving DecidableEq, Repr

namespace Verbosity

def all : List Verbosity := [.off, .error, .warn, .info, .debug, .trace]

def name : Verbosity → String
  | .off => "off"
  | .error => "error"
  | .warn => "warn"
  | .info => "info"
  | .debug => "debug"
  | .trace => "trace"

def informs : Verbosity → Bool
  | .info | .debug | .trace => true
  | .off | .error | .warn => false

def ofNumber? (cs : List Char) : Option Verbosity :=
  let digits :=
    match cs with
    | '+' :: cs => cs
    | cs => cs
  if digits.isEmpty || !digits.all Text.isDigit then none
  else all[digits.foldl (fun n c => 10 * n + Text.digitValue c) 0]?

def of? (cs : List Char) : Option Verbosity :=
  (ofNumber? cs).or (all.find? fun v => v.name.toList = cs.map Char.toLower)

end Verbosity

structure Directive where
  target : List Char
  verbosity : Verbosity
  deriving DecidableEq, Repr

namespace Directive

def verbosityAfter? (cs : List Char) : Option Verbosity :=
  if cs.isEmpty then some .trace else Verbosity.of? cs

def canBegin (c : Char) : Bool :=
  c = '-' || c = ':' || c = '_' || c = '[' || c.isAlphanum || 128 ≤ c.toNat

/-- What stands behind a span, whose name ends with a bracket or with fields between braces. -/
def afterSpan? (cs : List Char) : Option (List Char) :=
  match cs.dropWhile fun c => c ≠ ']' && c ≠ '\x7b' with
  | ']' :: cs => some cs
  | '\x7b' :: cs =>
    match cs.dropWhile (· ≠ '\x7d') with
    | '\x7d' :: ']' :: rest => if rest.length + 2 = cs.length then none else some rest
    | _ => none
  | _ => none

/-- Reads a directive. One for spans concerns no record, and blanks count as part of a name. -/
def parse? (cs : List Char) : Option (List Directive) :=
  match Text.trim cs with
  | [] => none
  | c :: _ =>
    if !canBegin c then none
    else
      match cs.dropWhile fun c => c ≠ '=' && c ≠ '[' with
      | '=' :: level =>
        if cs.head?.any Text.isBlank then none
        else (verbosityAfter? level).map fun v => [⟨cs.takeWhile (· ≠ '='), v⟩]
      | '[' :: span =>
        match afterSpan? span with
        | some [] => some []
        | some ('=' :: level) => (verbosityAfter? level).map fun _ => []
        | _ => none
      | _ =>
        match Verbosity.of? cs with
        | some v => some [⟨[], v⟩]
        | none => some [⟨cs, .trace⟩]

/-- The directive that counts for a target: the one with the longest name, of equals the last. -/
def choose (target : List Char) (best d : Directive) : Directive :=
  if d.target.isPrefixOf target && best.target.length ≤ d.target.length then d else best

end Directive

abbrev Filter := List Directive

namespace Filter

def standard : Filter := [⟨[], .info⟩]

def parse? (s : String) : Option Filter :=
  (((Text.splitOn ',' s.toList).filter fun cs => !cs.isEmpty).mapM Directive.parse?).map List.flatten

def ofVariable (value : Option String) : Filter := (value.bind parse?).getD standard

def shows (f : Filter) (r : Record) : Bool :=
  (f.foldl (Directive.choose r.target.toList) ⟨[], .off⟩).verbosity.informs

end Filter

end OriginRegistry.Log
