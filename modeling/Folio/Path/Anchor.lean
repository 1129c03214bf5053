import Folio.Path.Normal
import Folio.Text.Case

/-!
# Page anchors

On the print page every chapter is reached by a fragment. `anchor` flattens a normalized relative
URL into the name of such a fragment, and `pageId` gives the name of the chapter with a given source
path.
-/

namespace Folio.Path

open Folio.Text

/-- The extension of rendered pages. -/
def htmlExtension : List Char := ['.', 'h', 't', 'm', 'l']

/-- The extension of chapter sources. -/
def sourceExtension : List Char := ['.', 'm', 'd']

/-- The fragment name of a normalized relative URL: slashes, the fragment mark and the extension in
front of it become hyphens, letters become lower case, and a page extension at the end is dropped.
-/
def anchor (url : List Char) : List Char :=
  let hyphened := url.map fun c => if c = '/' then '-' else c
  let joined := replaceAll (htmlExtension ++ ['#']) ['-'] hyphened
  let flat := joined.map fun c => if c = '#' then '-' else c
  dropSuffix htmlExtension (lower flat)

/-- The anchor of the chapter with this source path. -/
def pageId (path : List Char) : List Char :=
  anchor (normalize (dropSuffix sourceExtension path))

end Folio.Path
