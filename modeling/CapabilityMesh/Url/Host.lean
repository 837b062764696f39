/-
Hosts: domains, numeric addresses, and the opaque hosts of other schemes.
-/
import CapabilityMesh.Url.Address
import CapabilityMesh.Url.Domain
import CapabilityMesh.Url.Percent

namespace CapabilityMesh

/-- Why a text is no URL. -/
inductive UrlFault where
  | relativeWithoutBase
  | emptyHost
  | badPort
  | badAddress4
  | badAddress6
  | badDomain
  | badHostCharacter
deriving Repr, DecidableEq

namespace UrlFault

def message : UrlFault → String
  | relativeWithoutBase => "relative URL without a base"
  | emptyHost => "empty host"
  | badPort => "invalid port number"
  | badAddress4 => "invalid IPv4 address"
  | badAddress6 => "invalid IPv6 address"
  | badDomain => "invalid international domain name"
  | badHostCharacter => "invalid domain character"

end UrlFault

namespace Url

/-- The host of a URL. -/
inductive Host where
  | domain (name : String)
  | address4 (value : Nat)
  | address6 (pieces : List Nat)
  | opaqueName (name : String)
deriving Repr, DecidableEq

namespace Host

def render : Host → String
  | domain name => name
  | address4 value => showAddress4 value
  | address6 pieces => "[" ++ showAddress6 pieces ++ "]"
  | opaqueName name => name

def isEmpty : Host → Bool
  | domain name => name.isEmpty
  | opaqueName name => name.isEmpty
  | _ => false

def readBracketed (cs : List Char) : Except UrlFault Host :=
  if cs.getLast? = some ']' then
    match readAddress6 cs.dropLast with
    | some pieces => .ok (.address6 pieces)
    | none => .error .badAddress6
  else .error .badAddress6

def isForbidden (c : Char) : Bool :=
  ['\x00', '\t', '\n', '\r', ' ', '#', '/', ':', '<', '>', '?', '@', '[',
    '\\', ']', '^', '|'].contains c

/-- The host of a special scheme: a name whose last part is a number has to be
a four-byte address. -/
def read (cs : List Char) : Except UrlFault Host :=
  match cs with
  | '[' :: rest => readBracketed rest
  | _ => do
      let some decoded := Text.ofUtf8? (decodeBytes cs) | .error .badDomain
      let some name := domainToAscii? decoded.toList | .error .badDomain
      if name.isEmpty then .error .emptyHost
      else if endsInNumber name then
        match readAddress4 name with
        | some value => .ok (.address4 value)
        | none => .error .badAddress4
      else .ok (.domain (String.ofList name))

def readOpaque (cs : List Char) : Except UrlFault Host :=
  match cs with
  | '[' :: rest => readBracketed rest
  | _ =>
      if cs.any isForbidden then .error .badHostCharacter
      else .ok (.opaqueName (String.ofList (encode inControlSet cs)))

end Host

end Url

end CapabilityMesh
