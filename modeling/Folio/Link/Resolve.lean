import Folio.Link.Redirect

/-!
# Link destinations

Links to chapter sources become links to rendered pages. On the print page, where all chapters stand
on one page, links into the book become fragments made of the page anchor, redirects followed. Links
with a scheme, rooted links and links that leave the book stay as they are.
-/

namespace Folio.Link

open Folio.Text Folio.Page

/-- Turn the extension of a chapter source or a rendered page, in front of the fragment, into that
of rendered pages. -/
def pageExtension (dest : List Char) : List Char :=
  let (file, fragment) := cutAt '#' dest
  match dropSuffix? Path.htmlExtension file <|> dropSuffix? Path.sourceExtension file with
  | none => dest
  | some stem =>
    stem ++ Path.htmlExtension ++
      match fragment with
      | none => []
      | some fragment => '#' :: fragment

/-- The fragment of the print page that a normalized path in the book is reached by, or the path
itself if it leaves the book. -/
def toFragment (path : List Char) : List Char :=
  if Path.escapesRoot path then path else '#' :: Path.anchor path

/-- A normalized link in the book as it is written on the print page. -/
def toPrintPage (redirects : List Redirect) (link : List Char) : List Char :=
  let (page, fragment) := cutAt '#' link
  match applicable? redirects [lower link, lower page] with
  | none => toFragment link
  | some entry =>
    match follow entry page fragment with
    | .address url => url
    | .inBook path => toFragment path

/-- A link within the page: on the print page its name is that of the chapter's own anchors. -/
def resolveFragment (context : Context) (dest : List Char) : List Char :=
  if context.isPrint then
    '#' :: context.pageId ++ dest.map fun c => if c = '#' then '-' else c
  else dest

/-- Whether a destination is independent of the page it is written on. -/
def isAbsolute (dest : List Char) : Bool := Path.hasScheme dest || dest.head? == some '/'

/-- Resolve the destination of a link. -/
def resolveLink (context : Context) (dest : List Char) : List Char :=
  if dest.head? = some '#' then resolveFragment context dest
  else if isAbsolute dest then dest
  else
    let fixed := context.basePrefix ++ pageExtension dest
    let link := Path.normalize fixed
    if Path.escapesRoot link then fixed
    else if context.isPrint then toPrintPage context.redirects link
    else link

/-- Resolve the destination of an image or another resource. -/
def resolveResource (context : Context) (dest : List Char) : List Char :=
  if isAbsolute dest then dest else context.basePrefix ++ dest

/-- Resolve the name of a named anchor. -/
def resolveName (context : Context) (name : List Char) : List Char :=
  if context.isPrint then context.pageId ++ '-' :: name else name

end Folio.Link
