import OriginRegistry.Host.Domain
import OriginRegistry.Host.IPv6
import OriginRegistry.Text.Percent

set_option autoImplicit false

namespace OriginRegistry

inductive Host
  | domain (name : List Char)
  | ipv4 (address : Nat)
  | ipv6 (groups : List Nat)
  | opaqueName (name : List Char)
  deriving DecidableEq, Repr

namespace Host

inductive Refusal
  | empty
  | invalidIPv4
  | invalidIPv6
  | invalidDomainCharacter
  | invalidDomain
  deriving DecidableEq, Repr

def Refusal.message : Refusal → String
  | .empty => "empty host"
  | .invalidIPv4 => "invalid IPv4 address"
  | .invalidIPv6 => "invalid IPv6 address"
  | .invalidDomainCharacter => "invalid domain character"
  | .invalidDomain => "invalid international domain name"

def text : Host → List Char
  | domain name => name
  | ipv4 address => IPv4.text address
  | ipv6 groups => '[' :: IPv6.text groups ++ [']']
  | opaqueName name => name

def bracketed (cs : List Char) : Except Refusal Host :=
  if cs.getLast? == some ']' then
    match IPv6.parse? (cs.drop 1).dropLast with
    | some groups => .ok (ipv6 groups)
    | none => .error .invalidIPv6
  else .error .invalidIPv6

def named (cs : List Char) : Except Refusal Host :=
  match (Text.percentDecode cs).toOption.bind Domain.toAscii with
  | none => .error .invalidDomain
  | some [] => .error .empty
  | some name =>
    if IPv4.endsInNumber name then
      match IPv4.parse? name with
      | some address => .ok (ipv4 address)
      | none => .error .invalidIPv4
    else .ok (domain name)

def parse (cs : List Char) : Except Refusal Host :=
  match cs with
  | '[' :: _ => bracketed cs
  | _ => named cs

def isForbiddenOpaque (c : Char) : Bool :=
  ['\x00', '\t', '\n', '\r', ' ', '#', '/', ':', '<', '>', '?', '@', '[', '\\', ']', '^', '|'].contains c

def parseOpaque (cs : List Char) : Except Refusal Host :=
  match cs with
  | '[' :: _ => bracketed cs
  | _ => if cs.any isForbiddenOpaque then .error .invalidDomainCharacter else .ok (opaqueName cs)

end Host

end OriginRegistry
