import ApiConsole.Text.Basic
import ApiConsole.Url.Domain.Folding
import ApiConsole.Url.Domain.Unfit
import ApiConsole.Url.Ipv4
import ApiConsole.Url.Ipv6
import ApiConsole.Url.Path
import ApiConsole.Url.Punycode

/-!
# Hosts

A host is an address or a domain. What stands in brackets is an address of version 6; a domain whose
last label is a number is meant as an address of version 4.

A domain is written in ASCII. Its characters are folded, and every label that then holds others is
written in Punycode behind a mark. A label that has the mark already must be the Punycode of such a
label.
-/

namespace ApiConsole.Url

/-! ### Faults of URLs -/

inductive Fault where
  | emptyHost
  /-- The host is no domain name that can be written in ASCII. -/
  | invalidDomain
  | invalidPort
  | invalidIpv4
  | invalidIpv6
  /-- A host whose characters are kept as they are has one that is forbidden. -/
  | forbiddenCharacter
  /-- There is no scheme. -/
  | noBase
  deriving DecidableEq, Repr

def Fault.message : Fault → String
  | .emptyHost => "empty host"
  | .invalidDomain => "invalid international domain name"
  | .invalidPort => "invalid port number"
  | .invalidIpv4 => "invalid IPv4 address"
  | .invalidIpv6 => "invalid IPv6 address"
  | .forbiddenCharacter => "invalid domain character"
  | .noBase => "relative URL without a base"

/-! ### Domains -/

namespace Domain

def mark : List Char :=
  "xn--".toList

def isAscii (c : Char) : Bool :=
  c.toNat < 0x80

/-- The folded form of a text, unless it has a character that no domain has. -/
def folded? (cs : List Char) : Option (List Char) :=
  if cs.any isUnfit then none else some ((cs.filter fun c => !isSilent c).map fold)

def isSettled (c : Char) : Bool :=
  !isUnfit c && !isSilent c && fold c == c

def isEncoded (code : List Char) : Bool :=
  match Punycode.decode? code with
  | some label => label.all isSettled && !label.all isAscii
  | none => false

def label? (label : List Char) : Option (List Char) :=
  if mark.isPrefixOf label then
    if isEncoded (label.drop mark.length) then some label else none
  else if label.all isAscii then some label
  else some (mark ++ Punycode.encode label)

def ofText? (cs : List Char) : Option (List Char) := do
  let labels ← (Text.splitOn (· == '.') (← folded? cs)).mapM label?
  return Text.joinWith ['.'] labels

end Domain

/-! ### Hosts -/

inductive Host where
  | domain (text : List Char)
  | ipv4 (address : Ipv4)
  | ipv6 (address : Ipv6)
  deriving DecidableEq

namespace Host

/-- The host in brackets, of which the first one has been read. -/
def ofBracketed (cs : List Char) : Except Fault Host :=
  if cs.getLast? = some ']' then
    match Ipv6.ofText? cs.dropLast with
    | some address => .ok (.ipv6 address)
    | none => .error .invalidIpv6
  else .error .invalidIpv6

/-- The host that a text names. Its escapes are undone before anything else is looked at. -/
def ofDomain (cs : List Char) : Except Fault Host :=
  match (unescapedText? cs).bind Domain.ofText? with
  | none => .error .invalidDomain
  | some [] => .error .emptyHost
  | some name =>
      if Ipv4.isMeant name then
        match Ipv4.ofText? name with
        | some address => .ok (.ipv4 address)
        | none => .error .invalidIpv4
      else .ok (.domain name)

def ofText : List Char → Except Fault Host
  | '[' :: rest => ofBracketed rest
  | cs => ofDomain cs

/-- The characters that a host may not have where hosts are kept as they are. -/
def forbidden : List Char :=
  "\x00\t\n\r #/:<>?@[\\]^|".toList

def checkKept : List Char → Except Fault Unit
  | '[' :: rest => (ofBracketed rest).map fun _ => ()
  | cs => if cs.any forbidden.contains then .error .forbiddenCharacter else .ok ()

def text : Host → List Char
  | .domain text => text
  | .ipv4 address => address.text
  | .ipv6 address => ['['] ++ address.text ++ [']']

end Host

end ApiConsole.Url
