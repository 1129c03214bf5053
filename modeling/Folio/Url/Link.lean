import Folio.Text.Case
import Folio.Url.Parts
import Folio.Url.Percent
import Folio.Url.Punycode

/-!
# Addresses of links

The destination of a link is written percent-encoded, with its host in ASCII, and its text shows it
decoded. Addresses that run programs or reach for files are refused.
-/

namespace Folio.Url

open Folio.Text

/-- Map the labels of a host name. Of a mail address only the part behind the first `@`, up to a
second one, is mapped. -/
def mapLabels (f : List Char → Option (List Char)) (host : List Char) : Option (List Char) :=
  let (front, domain) :=
    match splitAt '@' host with
    | user :: domain :: _ => (user ++ ['@'], domain)
    | _ => ([], host)
  let dotted := domain.map fun c =>
    if [0x3002, 0xff0e, 0xff61].contains c.toNat then '.' else c
  ((splitAt '.' dotted).mapM f).map fun labels => front ++ joinWith ['.'] labels

/-- The mark in front of an encoded label. -/
def encodedMark : List Char := "xn--".toList

/-- A label in ASCII. -/
def asciiLabel (label : List Char) : List Char :=
  if label.any fun c => 0x7e < c.toNat then encodedMark ++ Punycode.encode label else label

/-- A label as it is shown. -/
def shownLabel? (label : List Char) : Option (List Char) :=
  if encodedMark.isPrefixOf label then Punycode.decode? (lower (label.drop 4)) else some label

/-- Whether host names are mapped in URLs with this protocol. -/
def hasHostName (parts : Parts) : Bool :=
  parts.host ≠ [] &&
    (parts.protocol = [] ||
      ["http:".toList, "https:".toList, "mailto:".toList].contains parts.protocol)

/-- Map the labels of the host of a URL, if it has one; a host that cannot be mapped stays. -/
def mapHost (f : List Char → Option (List Char)) (parts : Parts) : Parts :=
  if hasHostName parts then { parts with host := (mapLabels f parts.host).getD parts.host }
  else parts

/-- A destination as it is written in a link. The brackets around an address stay. -/
def normalizeLink (url : List Char) : List Char :=
  (mapHost (some ∘ asciiLabel) (.ofText url)).write encode

/-- Delimiters that stay encoded in shown addresses. -/
def shownDelimiters : List Char := ";/?:@&=+$,#%".toList

/-- A destination as it is shown. -/
def normalizeLinkText (url : List Char) : List Char :=
  decode shownDelimiters (mapHost shownLabel? (.ofText url)).toText

/-- Whether a destination may be linked to. -/
def isAllowed (url : List Char) : Bool :=
  let url := lower (strip url)
  let hasProtocol (name : String) : Bool := name.toList.isPrefixOf url
  if ["vbscript:", "javascript:", "file:", "data:"].any hasProtocol then
    ["data:image/gif;", "data:image/png;", "data:image/jpeg;", "data:image/webp;"].any hasProtocol
  else true

end Folio.Url
