import ScriptAssist.Text.Digits
import ScriptAssist.Text.Printable

/-!
# Hosts in URIs

A host in brackets has to be an address of version 6 or of a version to come. No host may hold a
sign that looks like one of those that divide a URI.
-/

namespace ScriptAssist

inductive HostFault
  | unpairedBracket
  | notAddress (host : Text)
  | version4InBrackets
  | badFutureAddress
  | lookalike (host : Text)
  deriving DecidableEq, Repr

def HostFault.message : HostFault → Text
  | unpairedBracket => "Invalid IPv6 URL"
  | notAddress host => Text.quoted host ++ " does not appear to be an IPv4 or IPv6 address"
  | version4InBrackets => "An IPv4 address cannot be in brackets"
  | badFutureAddress => "IPvFuture address is invalid"
  | lookalike host =>
    "netloc '" ++ host ++ "' contains invalid characters under NFKC normalization"

namespace Host

def isOctet (text : Text) : Bool :=
  !text.isEmpty && text.length ≤ 3 && text.all Char.isDigit &&
    (text.length == 1 || text.head? != some '0') &&
    Text.natOfDigits text ≤ 255

def isVersion4 (text : Text) : Bool :=
  let octets := Text.splitOn '.' text
  octets.length == 4 && octets.all isOctet

def isGroup (text : Text) : Bool :=
  !text.isEmpty && text.length ≤ 4 && text.all Text.isHexDigit

/-- The groups of an address of version 6, in which an address of version 4 at the end counts as
two groups. -/
def groups? (text : Text) : Option (List Text) :=
  let parts := Text.splitOn ':' text
  let last := parts.getLast?.getD []
  if !last.contains '.' then some parts
  else if isVersion4 last then some (parts.dropLast ++ [['0'], ['0']])
  else none

/-- Groups on one side of a gap. The outer end of an empty side is one empty part. -/
def isSide (parts : List Text) : Bool :=
  parts == [[]] || parts.all isGroup

def sideLength (parts : List Text) : Nat :=
  if parts == [[]] then 0 else parts.length

def isGroups (parts : List Text) : Bool :=
  let inner := (parts.drop 1).dropLast
  if inner.contains [] then
    let before := parts.take (1 + (inner.takeWhile (· != [])).length)
    let after := parts.drop (before.length + 1)
    isSide before && isSide after && sideLength before + sideLength after ≤ 7
  else parts.length == 8 && parts.all isGroup

def isVersion6 (text : Text) : Bool :=
  let (address, zone) := text.span (· != '%')
  let zoned := zone.isEmpty || (1 < zone.length && !(zone.drop 1).contains '%')
  zoned && 3 ≤ (Text.splitOn ':' address).length && (groups? address).any isGroups

def isFuture (text : Text) : Bool :=
  match (text.drop 1).span Text.isHexDigit with
  | (_ :: _, '.' :: _ :: _) => true
  | _ => false

def bracketFault? (text : Text) : Option HostFault :=
  if text.head? = some 'v' then if isFuture text then none else some .badFutureAddress
  else if isVersion4 text then some .version4InBrackets
  else if isVersion6 text then none
  else some (.notAddress text)

/-- The signs that stand for one of `/?#@:`, or hold one. -/
def lookalikes : List Nat := [
  0x2047, 0x2048, 0x2049, 0x2100, 0x2101, 0x2105, 0x2106, 0x2a74, 0xfe13, 0xfe16, 0xfe55, 0xfe56,
  0xfe5f, 0xfe6b, 0xff03, 0xff0f, 0xff1a, 0xff1f, 0xff20]

def fault? (host : Text) : Option HostFault :=
  if host.contains '[' != host.contains ']' then some .unpairedBracket
  else
    let inBrackets := ((host.dropWhile (· != '[')).drop 1).takeWhile (· != ']')
    match if host.contains '[' then bracketFault? inBrackets else none with
    | some fault => some fault
    | none => if host.any (lookalikes.contains ·.toNat) then some (.lookalike host) else none

end Host

end ScriptAssist
