import Folio.Text.Blank

/-!
# HTML tags

Raw HTML is recognised by the shape of its tags, without reading the document they belong to. Each
recogniser gives the text behind what it recognises. Also here are the conditions under which a line
begins or ends a block of raw HTML.
-/

namespace Folio.Markdown

open Folio.Text

/-- Drop a word from the front of a text. -/
def dropWord? : List Char → List Char → Option (List Char)
  | [], cs => some cs
  | w :: ws, c :: cs => if w = c then dropWord? ws cs else none
  | _ :: _, [] => none

/-- The text behind the first occurrence of a word. -/
def behindWord? (word : List Char) : List Char → Option (List Char)
  | [] => if word = [] then some [] else none
  | c :: cs => (dropWord? word (c :: cs)).orElse fun _ => behindWord? word cs

/-- Drop the name of a tag: a letter, then letters, digits and hyphens. -/
def dropTagName? : List Char → Option (List Char)
  | c :: cs => if c.isAlpha then some (cs.dropWhile fun c => c.isAlphanum || c = '-') else none
  | [] => none

/-- Drop the name of an attribute. -/
def dropAttributeName? : List Char → Option (List Char)
  | c :: cs =>
    if c.isAlpha || c = '_' || c = ':' then
      some (cs.dropWhile fun c => c.isAlphanum || c = ':' || c = '.' || c = '_' || c = '-')
    else none
  | [] => none

/-- A character of an attribute value without quotes. -/
def isBareValueChar (c : Char) : Bool := 0x20 < c.toNat && !"\"'=<>\x60".toList.contains c

/-- The texts behind an attribute value at the front, the preferred one first. A value without
quotes may end early, since blanks beyond ASCII may stand in it and may also end it. -/
def behindValue : List Char → List (List Char)
  | '\x22' :: cs => (behindWord? ['\x22'] cs).toList
  | '\x27' :: cs => (behindWord? ['\x27'] cs).toList
  | cs =>
    let count := (cs.takeWhile isBareValueChar).length
    (List.range count).map fun n => cs.drop (count - n)

/-- Drop the end of an opening tag. -/
def dropTagEnd? (cs : List Char) : Option (List Char) :=
  match cs.dropWhile isBlank with
  | '>' :: rest => some rest
  | '/' :: '>' :: rest => some rest
  | _ => none

/-- The first result that a list of alternatives gives. -/
def firstResult {α β : Type} (f : α → Option β) : List α → Option β
  | [] => none
  | a :: rest => (f a).orElse fun _ => firstResult f rest

/-- Drop attributes and the end of an opening tag; `fuel` bounds the number of attributes. -/
def dropAttributes? : Nat → List Char → Option (List Char)
  | 0, cs => dropTagEnd? cs
  | fuel + 1, cs =>
    let longer :=
      match cs with
      | c :: _ =>
        if isBlank c then
          match dropAttributeName? (cs.dropWhile isBlank) with
          | none => none
          | some behindName =>
            let valued :=
              match behindName.dropWhile isBlank with
              | '=' :: cs => behindValue (cs.dropWhile isBlank)
              | _ => []
            firstResult (dropAttributes? fuel) (valued ++ [behindName])
        else none
      | [] => none
    longer.orElse fun _ => dropTagEnd? cs

/-- Drop an opening tag. -/
def dropOpenTag? : List Char → Option (List Char)
  | '<' :: cs => (dropTagName? cs).bind fun rest => dropAttributes? rest.length rest
  | _ => none

/-- Drop a closing tag. -/
def dropCloseTag? : List Char → Option (List Char)
  | '<' :: '/' :: cs =>
    (dropTagName? cs).bind fun rest => dropWord? ['>'] (rest.dropWhile isBlank)
  | _ => none

/-- Drop the body of a comment with its end. A hyphen is read together with the character behind it,
and two hyphens with the one behind both, so the end counts only where such a group begins. -/
def dropCommentBody? : List Char → Option (List Char)
  | '-' :: '-' :: c :: cs => if c = '>' then some cs else dropCommentBody? cs
  | ['-', '-'] => none
  | '-' :: _ :: cs => dropCommentBody? cs
  | _ :: cs => dropCommentBody? cs
  | [] => none

/-- Drop a comment. -/
def dropComment? (cs : List Char) : Option (List Char) :=
  (dropWord? "<!-->".toList cs).orElse fun _ =>
    (dropWord? "<!--->".toList cs).orElse fun _ =>
      (dropWord? "<!--".toList cs).bind dropCommentBody?

/-- Drop a declaration. -/
def dropDeclaration? (cs : List Char) : Option (List Char) :=
  (dropWord? "<!".toList cs).bind fun rest =>
    match rest with
    | c :: rest => if c.isAlpha then behindWord? ['>'] rest else none
    | [] => none

/-- Drop what stands between two words at the front of a text, with both. -/
def dropBetween? (first last : String) (cs : List Char) : Option (List Char) :=
  (dropWord? first.toList cs).bind (behindWord? last.toList)

/-- Drop raw HTML: a tag, a comment, an instruction, a declaration or a character section. -/
def dropHtml? (cs : List Char) : Option (List Char) :=
  firstResult (fun drop? => drop? cs) [
    dropOpenTag?, dropCloseTag?, dropComment?, dropBetween? "<?" "?>", dropDeclaration?,
    dropBetween? "<![CDATA[" "]]>"]

/-! ## Blocks of raw HTML -/

/-- Drop a word from the front of a text, the case of ASCII letters ignored. -/
def dropCaseless? (word : String) (cs : List Char) : Option (List Char) :=
  (dropWord? word.toList (cs.map Char.toLower)).map fun rest => cs.drop (cs.length - rest.length)

/-- Elements whose content is not Markdown. -/
def rawElements : List String := ["script", "pre", "style", "textarea"]

/-- Elements that begin a block. -/
def blockElements : List String := [
  "address", "article", "aside", "base", "basefont", "blockquote", "body", "caption", "center",
  "col", "colgroup", "dd", "details", "dialog", "dir", "div", "dl", "dt", "fieldset", "figcaption",
  "figure", "footer", "form", "frame", "frameset", "h1", "h2", "h3", "h4", "h5", "h6", "head",
  "header", "hr", "html", "iframe", "legend", "li", "link", "main", "menu", "menuitem", "nav",
  "noframes", "ol", "optgroup", "option", "p", "param", "search", "section", "summary", "table",
  "tbody", "td", "tfoot", "th", "thead", "title", "tr", "track", "ul"]

/-- How a block of raw HTML ends. -/
inductive HtmlEnd where
  /-- With a line that holds one of these texts, the case of ASCII letters ignored. -/
  | text (marks : List String)
  /-- Before an empty line. -/
  | emptyLine
  deriving DecidableEq, Repr

/-- How a block of raw HTML ends, and whether it may interrupt a paragraph. -/
structure HtmlStart where
  ends : HtmlEnd
  interrupts : Bool
  deriving DecidableEq, Repr

/-- Whether a text begins with a blank, with the end of a tag, or not at all. -/
def endsName (slash : Bool) : List Char → Bool
  | [] => true
  | '>' :: _ => true
  | '/' :: '>' :: _ => slash
  | c :: _ => isBlank c

/-- Whether an opening tag of an element whose content is not Markdown stands in front. -/
def startsRawElement : List Char → Bool
  | '<' :: cs => rawElements.any fun name => (dropCaseless? name cs).any (endsName false)
  | _ => false

/-- Whether a tag of an element that begins a block stands in front. -/
def startsBlockElement : List Char → Bool
  | '<' :: cs =>
    let cs := (dropWord? ['/'] cs).getD cs
    blockElements.any fun name => (dropCaseless? name cs).any (endsName true)
  | _ => false

/-- Whether a declaration stands in front. -/
def startsDeclaration : List Char → Bool
  | '<' :: '!' :: c :: _ => c.isAlpha
  | _ => false

/-- Whether a line is a single tag. -/
def isLoneTag (cs : List Char) : Bool :=
  let alone (rest : List Char) : Bool := rest.all isBlank
  (dropOpenTag? cs).any alone || (dropCloseTag? cs).any alone

/-- How the block of raw HTML ends that a line begins. -/
def htmlStart? (cs : List Char) : Option HtmlStart :=
  if startsRawElement cs then some ⟨.text (rawElements.map fun name => "</" ++ name ++ ">"), true⟩
  else if (dropWord? "<!--".toList cs).isSome then some ⟨.text ["-->"], true⟩
  else if (dropWord? "<?".toList cs).isSome then some ⟨.text ["?>"], true⟩
  else if startsDeclaration cs then some ⟨.text [">"], true⟩
  else if (dropWord? "<![CDATA[".toList cs).isSome then some ⟨.text ["]]>"], true⟩
  else if startsBlockElement cs then some ⟨.emptyLine, true⟩
  else if isLoneTag cs then some ⟨.emptyLine, false⟩
  else none

/-- Whether the content of a line ends a block of raw HTML. -/
def HtmlEnd.isMetBy (ends : HtmlEnd) (cs : List Char) : Bool :=
  match ends with
  | .text marks => marks.any fun mark => (behindWord? mark.toList (cs.map Char.toLower)).isSome
  | .emptyLine => cs.isEmpty

end Folio.Markdown
