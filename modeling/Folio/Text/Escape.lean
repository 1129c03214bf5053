/-!
# Entity escapes

Characters that would end an attribute value or open a tag are written as entities. `escapeSpecial`
guards element ids and attribute values, `escapeBrackets` guards against tags alone, and
`escapeHtml` is the escaping of text and attribute values in serialized HTML. `decodeSpecial` reads
back what `escapeSpecial` writes.
-/

namespace Folio.Text

/-- The spelling of one character inside an id. -/
def specialEscape : Char → List Char
  | '<' => ['&', 'l', 't', ';']
  | '>' => ['&', 'g', 't', ';']
  | '\x27' => ['&', '#', '3', '9', ';']
  | '\x22' => ['&', 'q', 'u', 'o', 't', ';']
  | '\\' => ['&', '#', '9', '2', ';']
  | '&' => ['&', 'a', 'm', 'p', ';']
  | c => [c]

/-- Escape angle brackets, both quotes, the backslash and the ampersand. -/
def escapeSpecial (cs : List Char) : List Char := cs.flatMap specialEscape

/-- Escape angle brackets only. -/
def escapeBrackets (cs : List Char) : List Char :=
  cs.flatMap fun c => if c = '<' || c = '>' then specialEscape c else [c]

/-- Read the six entities back; any other ampersand stands for itself. -/
def decodeSpecial : List Char → List Char
  | '&' :: 'l' :: 't' :: ';' :: cs => '<' :: decodeSpecial cs
  | '&' :: 'g' :: 't' :: ';' :: cs => '>' :: decodeSpecial cs
  | '&' :: '#' :: '3' :: '9' :: ';' :: cs => '\x27' :: decodeSpecial cs
  | '&' :: 'q' :: 'u' :: 'o' :: 't' :: ';' :: cs => '\x22' :: decodeSpecial cs
  | '&' :: '#' :: '9' :: '2' :: ';' :: cs => '\\' :: decodeSpecial cs
  | '&' :: 'a' :: 'm' :: 'p' :: ';' :: cs => '&' :: decodeSpecial cs
  | c :: cs => c :: decodeSpecial cs
  | [] => []

/-- Escape what is special in serialized HTML: ampersand, angle brackets and the double quote. -/
def escapeHtml (cs : List Char) : List Char :=
  cs.flatMap fun c =>
    if c = '&' || c = '<' || c = '>' || c = '\x22' then specialEscape c else [c]

/-- `escapeHtml` on strings. -/
def escapedHtml (s : String) : String := .ofList (escapeHtml s.toList)

@[simp] theorem escapeSpecial_append (s t : List Char) :
    escapeSpecial (s ++ t) = escapeSpecial s ++ escapeSpecial t := List.flatMap_append

@[simp] theorem escapeHtml_append (s t : List Char) :
    escapeHtml (s ++ t) = escapeHtml s ++ escapeHtml t := List.flatMap_append

end Folio.Text
