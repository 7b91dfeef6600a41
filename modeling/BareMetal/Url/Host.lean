/-
# Hosts in a reference

What stands between `//` and the path of a reference is checked in two ways.

If there are brackets anywhere, there are brackets of both kinds, and what
follows the last `@` is an address, in brackets or not, with a colon before
anything behind it. The address is of version 6, or of a later one in the form
`v` hex digits `.` anything. An address of version 6 has eight groups of one to
four hex digits with colons between them; one run of groups may be written `::`,
the last two groups may be written as an address of version 4, and a zone may
follow a `%`.

| host | fault |
| --- | --- |
| `[::1]:80`, `u[x]@[v1.y]` | none |
| `[::1`, `a[::1]`, `[::1]x` | misplaced brackets |
| `[1.2.3.4]` | an address of version 4 |
| `[::1]@h` | `h` is not an address |

Characters that compatibility normalisation would turn into one of `/?#@:` are
refused.
-/

import BareMetal.Text.Blank
import BareMetal.Text.Quoted
import BareMetal.Json.Parser

namespace BareMetal
namespace Url

/-- Why a host is refused. -/
inductive HostFault where
  | misplacedBrackets
  | laterVersion
  | version4InBrackets
  | notAnAddress (host : String)
  | foreignCharacter (host : String)
deriving DecidableEq, Repr

/-- The wording of a fault. -/
def HostFault.message : HostFault → String
  | misplacedBrackets => "Invalid IPv6 URL"
  | laterVersion => "IPvFuture address is invalid"
  | version4InBrackets => "An IPv4 address cannot be in brackets"
  | notAnAddress host => s!"{Text.quoted host} does not appear to be an IPv4 or IPv6 address"
  | foreignCharacter host =>
    s!"netloc '{host}' contains invalid characters under NFKC normalization"

/-- A hexadecimal digit. -/
def isHexDigit (c : Char) : Bool := (Json.hexValue? c).isSome

/-- A number from 0 to 255 in decimal digits without a leading zero. -/
def isOctet (cs : List Char) : Bool :=
  !cs.isEmpty && cs.all Char.isDigit && cs.length ≤ 3 && (cs == ['0'] || cs.head? != some '0') &&
    Numeral.ofDigits cs ≤ 255

/-- An address of version 4. -/
def isVersion4 (cs : List Char) : Bool :=
  let octets := Text.split '.' cs
  octets.length == 4 && octets.all isOctet

/-- A group of an address of version 6. -/
def isGroup (cs : List Char) : Bool :=
  !cs.isEmpty && cs.length ≤ 4 && cs.all isHexDigit

/-- The groups of an address, with its last two in hex digits; nothing if they
are in neither form. -/
def plainGroups? (groups : List (List Char)) : Option (List (List Char)) :=
  match groups.getLast? with
  | some last =>
    if last.contains '.' then
      if isVersion4 last then some (groups.dropLast ++ [['0'], ['0']]) else none
    else some groups
  | none => none

/-- The pieces between the colons form an address: eight groups, or at most
seven with one empty piece for the run that is left out. At either end the run
takes two empty pieces. -/
def isGroups (groups : List (List Char)) : Bool :=
  let inner := groups.tail.dropLast
  match inner.findIdx? List.isEmpty with
  | none => groups.length == 8 && groups.all isGroup
  | some i =>
    let high := groups.take (i + 1)
    let low := groups.drop (i + 2)
    let high := if high == [[]] then [] else high
    let low := if low == [[]] then [] else low
    high.length + low.length ≤ 7 && high.all isGroup && low.all isGroup

/-- An address of version 6. -/
def isVersion6 (cs : List Char) : Bool :=
  let zoneIsGood :=
    match cs.dropWhile (· ≠ '%') with
    | [] => true
    | _ :: zone => !zone.isEmpty && !zone.contains '%'
  let groups := Text.split ':' (cs.takeWhile (· ≠ '%'))
  zoneIsGood && 3 ≤ groups.length &&
    match plainGroups? groups with
    | some groups => groups.length ≤ 9 && isGroups groups
    | none => false

/-- What is wrong with an address. -/
def addressFault? (cs : List Char) : Option HostFault :=
  match cs with
  | 'v' :: rest =>
    match rest.takeWhile isHexDigit, rest.dropWhile isHexDigit with
    | _ :: _, '.' :: _ :: _ => none
    | _, _ => some .laterVersion
  | _ =>
    if isVersion4 cs then some .version4InBrackets
    else if isVersion6 cs then none
    else some (.notAnAddress (String.ofList cs))

/-- Characters that compatibility normalisation turns into one of `/?#@:`. -/
def disguised : List Nat := [
  0x2047, 0x2048, 0x2049, 0x2100, 0x2101, 0x2105, 0x2106, 0x2A74, 0xFE13, 0xFE16, 0xFE55, 0xFE56,
  0xFE5F, 0xFE6B, 0xFF03, 0xFF0F, 0xFF1A, 0xFF1F, 0xFF20]

/-- What follows the last `@` of a host. -/
def afterUser (host : List Char) : List Char := (host.reverse.takeWhile (· ≠ '@')).reverse

/-- What is wrong with an address, which may stand in brackets and have a port. -/
def locationFault? (cs : List Char) : Option HostFault :=
  match cs.takeWhile (· ≠ '['), cs.dropWhile (· ≠ '[') with
  | [], _ :: inside =>
    match (inside.dropWhile (· ≠ ']')).drop 1 with
    | [] | ':' :: _ => addressFault? (inside.takeWhile (· ≠ ']'))
    | _ => some .misplacedBrackets
  | _ :: _, _ :: _ => some .misplacedBrackets
  | _, [] => addressFault? (cs.takeWhile (· ≠ ':'))

/-- What is wrong with the brackets of a host. -/
def bracketsFault? (host : List Char) : Option HostFault :=
  if host.contains '[' != host.contains ']' then some .misplacedBrackets
  else if host.contains '[' then locationFault? (afterUser host)
  else none

/-- What is wrong with a host. -/
def hostFault? (host : List Char) : Option HostFault :=
  match bracketsFault? host with
  | some fault => some fault
  | none =>
    if host.any (disguised.contains ·.toNat) then some (.foreignCharacter (String.ofList host))
    else none

end Url
end BareMetal
