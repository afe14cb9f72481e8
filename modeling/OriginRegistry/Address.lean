import OriginRegistry.Host
import OriginRegistry.Text.Blank
import OriginRegistry.Text.Split

/-!
Absolute addresses, as the web reads them: scheme, credentials, host, port, path, query and fragment.
Schemes that the web knows take a backslash for a slash and any number of them before the host.
-/

set_option autoImplicit false

namespace OriginRegistry

inductive Scheme
  | http
  | https
  | ws
  | wss
  | ftp
  | file
  | other (name : List Char)
  deriving DecidableEq, Repr

namespace Scheme

def httpName : List Char := ['h', 't', 't', 'p']
def httpsName : List Char := ['h', 't', 't', 'p', 's']
def wsName : List Char := ['w', 's']
def wssName : List Char := ['w', 's', 's']
def ftpName : List Char := ['f', 't', 'p']
def fileName : List Char := ['f', 'i', 'l', 'e']

def ofName (name : List Char) : Scheme :=
  if name = httpName then http
  else if name = httpsName then https
  else if name = wsName then ws
  else if name = wssName then wss
  else if name = ftpName then ftp
  else if name = fileName then file
  else other name

def name : Scheme → List Char
  | http => httpName
  | https => httpsName
  | ws => wsName
  | wss => wssName
  | ftp => ftpName
  | file => fileName
  | other name => name

def defaultPort? : Scheme → Option Nat
  | http | ws => some 80
  | https | wss => some 443
  | ftp => some 21
  | file | other _ => none

def isSpecial : Scheme → Bool
  | other _ => false
  | _ => true

/-- Schemes whose addresses belong to an origin of scheme, host and port. -/
def hasWebOrigin : Scheme → Bool
  | file | other _ => false
  | _ => true

end Scheme

/-- An address. `path` holds the segments behind each slash, none for an empty path; `port` is absent also
    when it is the default of the scheme. -/
structure Address where
  scheme : Scheme
  username : List Char
  password : Option (List Char)
  host : Option Host
  port : Option Nat
  path : List (List Char)
  query : Option (List Char)
  fragment : Option (List Char)
  deriving DecidableEq, Repr

namespace Address

inductive Refusal
  | noScheme
  | host (refusal : Host.Refusal)
  | invalidPort
  deriving DecidableEq, Repr

def Refusal.message : Refusal → String
  | .noScheme => "relative URL without a base"
  | .host refusal => refusal.message
  | .invalidPort => "invalid port number"

def isSchemeChar (c : Char) : Bool := c.isAlphanum || c == '+' || c == '-' || c == '.'

def splitScheme (cs : List Char) : Option (List Char × List Char) :=
  match cs with
  | [] => none
  | c :: _ =>
    if c.isAlpha then
      match cs.dropWhile isSchemeChar with
      | ':' :: rest => some ((cs.takeWhile isSchemeChar).map Char.toLower, rest)
      | _ => none
    else none

def isSlash (special : Bool) (c : Char) : Bool := c == '/' || (special && c == '\\')

def endsAuthority (special : Bool) (c : Char) : Bool := isSlash special c || c == '?' || c == '#'

def splitLastAt (cs : List Char) : Option (List Char × List Char) :=
  let tail := (cs.reverse.takeWhile (· != '@')).reverse
  match cs.reverse.dropWhile (· != '@') with
  | [] => none
  | _ :: before => some (before.reverse, tail)

def splitCredentials (cs : List Char) : List Char × Option (List Char) :=
  (cs.takeWhile (· != ':'),
    match (cs.dropWhile (· != ':')).drop 1 with
    | [] => none
    | password => some password)

/-- Splits at the first colon that no brackets enclose. -/
def splitHost : (enclosed : Bool) → List Char → List Char × List Char
  | _, [] => ([], [])
  | enclosed, c :: cs =>
    if c = ':' ∧ !enclosed then ([], c :: cs)
    else
      let (host, rest) := splitHost (if c = '[' then true else if c = ']' then false else enclosed) cs
      (c :: host, rest)

/-- Reads the digits of a port behind those that make up `sum`; `none` for no digits at all. -/
def readPort (sum : Option Nat) : List Char → Except Refusal (Option Nat × List Char)
  | [] => .ok (sum, [])
  | c :: cs =>
    if c.isDigit then
      let n := sum.getD 0 * 10 + (c.toNat - '0'.toNat)
      if n < 65536 then readPort (some n) cs else .error .invalidPort
    else if c = '/' ∨ c = '\\' ∨ c = '?' ∨ c = '#' then .ok (sum, c :: cs)
    else .error .invalidPort

def isDot (segment : List Char) : Bool :=
  [['.'], ['%', '2', 'e']].contains (segment.map Char.toLower)

def isDotDot (segment : List Char) : Bool :=
  [['.', '.'], ['.', '%', '2', 'e'], ['%', '2', 'e', '.'], ['%', '2', 'e', '%', '2', 'e']].contains
    (segment.map Char.toLower)

/-- Follows dot segments. `before` are the segments so far, last one first; a dot segment at the end leaves
    an empty one. -/
def followDots (before : List (List Char)) : List (List Char) → List (List Char)
  | [] => before.reverse
  | [last] =>
    if isDotDot last then (before.drop 1).reverse ++ [[]]
    else if isDot last then before.reverse ++ [[]]
    else before.reverse ++ [last]
  | segment :: segments =>
    if isDotDot segment then followDots (before.drop 1) segments
    else if isDot segment then followDots before segments
    else followDots (segment :: before) segments

def splitTail (cs : List Char) : List Char × Option (List Char) × Option (List Char) :=
  let path := cs.takeWhile fun c => c != '?' && c != '#'
  match cs.dropWhile fun c => c != '?' && c != '#' with
  | '?' :: rest =>
    match rest.dropWhile (· != '#') with
    | _ :: fragment => (path, some (rest.takeWhile (· != '#')), some fragment)
    | [] => (path, some rest, none)
  | _ :: fragment => (path, none, some fragment)
  | [] => (path, none, none)

def slashed (special : Bool) (cs : List Char) : List Char :=
  cs.map fun c => if isSlash special c then '/' else c

def segments (special : Bool) (path : List Char) : List (List Char) :=
  match slashed special path with
  | [] => if special then [[]] else []
  | '/' :: cs => followDots [] (Text.splitOn '/' cs)
  | cs => followDots [] (Text.splitOn '/' cs)

/-- An empty host is an error where credentials or a port would belong to it. -/
def hostOf (scheme : Scheme) (cs : List Char) : Except Refusal (Option Host) :=
  if scheme.isSpecial then
    if cs.isEmpty then .error (.host .empty)
    else
      match Host.parse cs with
      | .ok host => .ok (some host)
      | .error refusal => .error (.host refusal)
  else if cs.isEmpty then .ok none
  else
    match Host.parseOpaque cs with
    | .ok host => .ok (some host)
    | .error refusal => .error (.host refusal)

def readHostPort (scheme : Scheme) (cs : List Char) :
    Except Refusal (Option Host × Option Nat × List Char) :=
  let (name, rest) := splitHost false cs
  match hostOf scheme name with
  | .error refusal => .error refusal
  | .ok host =>
    match rest with
    | [] => .ok (host, none, [])
    | _ :: digits =>
      if host.isNone then .error (.host .empty)
      else
        match readPort none digits with
        | .error refusal => .error refusal
        | .ok (port, remaining) =>
          .ok (host, if port = scheme.defaultPort? then none else port, remaining)

def readAuthority (scheme : Scheme) (cs : List Char) : Except Refusal Address :=
  let authority := cs.takeWhile fun c => !endsAuthority scheme.isSpecial c
  let rest := cs.dropWhile fun c => !endsAuthority scheme.isSpecial c
  let (credentials, hostPort) := (splitLastAt authority).getD ([], authority)
  let (username, password) := splitCredentials credentials
  let marked := (splitLastAt authority).isSome
  if marked && credentials.isEmpty && hostPort.isEmpty && !rest.isEmpty then .error (.host .empty)
  else
    match readHostPort scheme hostPort with
    | .error refusal => .error refusal
    | .ok (host, port, remaining) =>
      if host.isNone && (!username.isEmpty || password.isSome) then .error (.host .empty)
      else
        let (path, query, fragment) := splitTail (remaining ++ rest)
        .ok ⟨scheme, username, password, host, port, segments scheme.isSpecial path, query, fragment⟩

def isDriveLetter : List Char → Bool
  | [c, d] => c.isAlpha && (d == ':' || d == '|')
  | _ => false

def localName : List Char := ['l', 'o', 'c', 'a', 'l', 'h', 'o', 's', 't']

/-- The host of a file. The own machine and a drive letter are none. -/
def fileHost (cs : List Char) : Except Refusal (Option Host) :=
  if cs.isEmpty || isDriveLetter cs then .ok none
  else
    match Host.parse cs with
    | .error refusal => .error (.host refusal)
    | .ok host => .ok (if host = .domain localName then none else some host)

def dropLeadingEmpty : List (List Char) → List (List Char)
  | [] :: segment :: segments => dropLeadingEmpty (segment :: segments)
  | segments => segments

def startsWithDrive (path : List Char) : Bool :=
  match Text.splitOn '/' (slashed true path) with
  | [] :: segment :: _ => isDriveLetter segment
  | _ => false

def readFile (cs : List Char) : Except Refusal Address :=
  match cs with
  | c :: d :: rest =>
    if isSlash true c && isSlash true d then
      match fileHost (rest.takeWhile fun c => !endsAuthority true c) with
      | .error refusal => .error refusal
      | .ok host =>
        let (path, query, fragment) := splitTail (rest.dropWhile fun c => !endsAuthority true c)
        .ok ⟨.file, [], none, if startsWithDrive path then none else host, none,
          dropLeadingEmpty (segments true path), query, fragment⟩
    else withoutHost .file cs
  | _ => withoutHost .file cs
where
  withoutHost (scheme : Scheme) (cs : List Char) : Except Refusal Address :=
    let (path, query, fragment) := splitTail cs
    .ok ⟨scheme, [], none, none, none, segments scheme.isSpecial path, query, fragment⟩

def readRest (scheme : Scheme) (cs : List Char) : Except Refusal Address :=
  match scheme with
  | .file => readFile cs
  | .other _ =>
    match cs with
    | '/' :: '/' :: rest => readAuthority scheme rest
    | _ => readFile.withoutHost scheme cs
  | _ => readAuthority scheme (cs.dropWhile (isSlash true))

def isPadding (c : Char) : Bool := c.toNat ≤ 32

/-- Reads an absolute address from a text without tabs and line breaks inside. -/
def parse (cs : List Char) : Except Refusal Address :=
  match splitScheme (Text.trimEnds isPadding cs) with
  | none => .error .noScheme
  | some (name, rest) => readRest (.ofName name) rest

def effectivePort? (a : Address) : Option Nat := a.port.or a.scheme.defaultPort?

end Address

end OriginRegistry
