import Folio.Text.Blank
import Folio.Text.Search

/-!
# Parts of a URL

A URL is taken apart into protocol, credentials, host, the number behind the host, and the path with
what follows it. Text that begins with two slashes names a host also without a protocol. Putting the
parts together again gives the URL back, but for blanks around it, empty credentials and an empty
number.
-/

namespace Folio.Url

open Folio.Text

/-- A URL taken apart. -/
structure Parts where
  /-- The protocol with its colon. -/
  protocol : List Char := []
  slashes : Bool := false
  credentials : List Char := []
  host : List Char := []
  /-- The number behind the host. -/
  number : List Char := []
  /-- The path, the query and the fragment. -/
  rest : List Char := []
  deriving Repr, DecidableEq

/-- A character that may stand in a protocol. -/
def isProtocolChar (c : Char) : Bool := c.isAlphanum || c = '.' || c = '+' || c = '-'

/-- The protocol that a text begins with, colon included. Letters that fold to ASCII letters count.
-/
def protocol? (cs : List Char) : Option (List Char) :=
  let isChar (c : Char) : Bool := isProtocolChar c || [0x130, 0x131, 0x17f, 0x212a].contains c.toNat
  let name := cs.takeWhile isChar
  if name ≠ [] ∧ cs[name.length]? = some ':' then some (name ++ [':']) else none

/-- Protocols of URLs in which slashes stand before the host. -/
def slashedProtocols : List (List Char) :=
  ["http:".toList, "https:".toList, "ftp:".toList, "gopher:".toList, "file:".toList]

/-- The protocol of addresses that are programs and have no host. -/
def hostlessProtocol : List Char := "javascript:".toList

/-- Characters that a host cannot hold. -/
def endsHost (c : Char) : Bool :=
  "%/?;#'\x7b\x7d|\\^\x60<>\" \r\n\t".toList.contains c

/-- Split a text behind the last occurrence of a character: what stands before it, if it occurs, and
what stands behind it. -/
def cutLast (mark : Char) (cs : List Char) : Option (List Char) × List Char :=
  let behind := (cs.reverse.takeWhile (· ≠ mark)).reverse
  if behind.length = cs.length then (none, cs)
  else (some (cs.take (cs.length - behind.length - 1)), behind)

/-- Split credentials off the front of a text with a host. They end at the last `@` before a slash,
a question mark or a number sign. -/
def splitCredentials (cs : List Char) : List Char × List Char :=
  let reach := cs.takeWhile fun c => c ≠ '/' && c ≠ '?' && c ≠ '#'
  match cutLast '@' reach with
  | (none, _) => ([], cs)
  | (some credentials, _) => (credentials, cs.drop (credentials.length + 1))

/-- Split a number off the end of a host: the host without it, and its digits. -/
def splitNumber (host : List Char) : List Char × List Char :=
  let digits := (host.reverse.takeWhile Char.isDigit).reverse
  let front := host.take (host.length - digits.length)
  if front.getLast? = some ':' then (front.dropLast, digits) else (host, [])

/-- A character that may stand in a label of a host name; characters beyond ASCII may. -/
def isLabelChar (c : Char) : Bool := c.isAlphanum || c = '+' || c = '_' || c = '-'

/-- Split a host name before the first label that is no label: what is too long or holds other
characters goes to the text behind the host. -/
def splitLabels : List (List Char) → List (List Char) × Option (List (List Char))
  | [] => ([], none)
  | label :: labels =>
    if label.length ≤ 63 ∧ label.all fun c => isLabelChar c || 127 < c.toNat then
      let (valid, other) := splitLabels labels
      (label :: valid, other)
    else
      let front := (label.takeWhile isLabelChar).take 63
      ([front], some (label.drop front.length :: labels))

/-- The host name without what cannot belong to it, and the text that was cut off. -/
def validHost (host : List Char) : List Char × List Char :=
  match splitLabels (splitAt '.' host) with
  | (_, none) => (host, [])
  | (valid, some other) => (joinWith ['.'] valid, joinWith ['.'] other)

/-- The part of a text in which its host stands. A colon at its end is not taken in. -/
def hostReach (cs : List Char) : List Char :=
  let reach := cs.takeWhile (!endsHost ·)
  if reach.getLast? = some ':' then reach.dropLast else reach

/-- Take the host and its number off a text. -/
def splitHost (parts : Parts) (cs : List Char) : Parts :=
  let (credentials, cs) := splitCredentials cs
  let reach := hostReach cs
  let rest := cs.drop reach.length
  let (host, number) := splitNumber reach
  let isAddress := host.head? == some '[' && host.getLast? == some ']'
  let (host, extra) := if isAddress then (host, []) else validHost host
  let host := if 255 < host.length then [] else host
  let host := if isAddress then (host.drop 1).dropLast else host
  { parts with credentials, host, number, rest := extra ++ rest }

/-- Take a URL apart. -/
def Parts.ofText (url : List Char) : Parts :=
  let cs := strip url
  let protocol := (protocol? cs).getD []
  let cs := cs.drop protocol.length
  let doubled := "//".toList.isPrefixOf cs
  let hostless := protocol == hostlessProtocol
  let slashes := doubled && !hostless
  let cs := if slashes then cs.drop 2 else cs
  let parts : Parts := { protocol, slashes, rest := cs }
  if !hostless && (doubled || (protocol ≠ [] && !slashedProtocols.contains protocol)) then
    splitHost parts cs
  else parts

/-- Put the parts of a URL together, each written by `write`. An address, which holds a colon,
stands in brackets as a host. -/
def Parts.write (write : List Char → List Char) (parts : Parts) : List Char :=
  write (parts.protocol ++ (if parts.slashes then ['/', '/'] else []) ++
      (if parts.credentials = [] then [] else parts.credentials ++ ['@'])) ++
    (if parts.host.contains ':' then '[' :: write parts.host ++ [']'] else write parts.host) ++
    write ((if parts.number = [] then [] else ':' :: parts.number) ++ parts.rest)

/-- Put the parts of a URL together. -/
def Parts.toText (parts : Parts) : List Char := parts.write id

end Folio.Url
