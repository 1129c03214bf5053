import Folio.Link.RawHtml
import Folio.Token.Basic

/-!
# Destinations in the token stream

Links, images and raw HTML carry destinations. `resolveLinks` resolves those of a token and, below
an inline token, those of its children. Mail addresses written as autolinks are left alone.
-/

namespace Folio

open Folio.Page Folio.Link

namespace Token

/-- Apply a function on characters to a string. -/
def mapChars (f : List Char → List Char) (s : String) : String := .ofList (f s.toList)

/-- Whether a link is an autolink to a mail address. -/
def isMailAutolink (token : Token) : Bool :=
  token.markup == "autolink" &&
    match token.attrs.get? "href" with
    | some href => "mailto:".toList.isPrefixOf href.toText.toList
    | none => false

/-- Change the value of an attribute, if it is there. -/
def mapAttr (token : Token) (name : String) (f : List Char → List Char) : Token :=
  match token.attrs.get? name with
  | none => token
  | some value =>
    { token with attrs := token.attrs.set name (.text (mapChars f value.toText)) }

/-- Resolve the destination that a token itself carries. -/
def resolveOwn (context : Context) (token : Token) : Token :=
  match token.kind with
  | .linkOpen =>
    if token.isMailAutolink then token else token.mapAttr "href" (resolveLink context)
  | .image => token.mapAttr "src" (resolveResource context)
  | .htmlBlock | .htmlInline =>
    { token with content := mapChars (resolveHtml context) token.content }
  | _ => token

mutual

/-- Resolve the destinations in a token. -/
def resolveLinks (context : Context) : Token → Token
  | ⟨kind, tag, nesting, attrs, content, markup, info, block, hidden, label, children⟩ =>
    if kind = .inline then
      ⟨kind, tag, nesting, attrs, content, markup, info, block, hidden, label,
        resolveChildren context children⟩
    else
      resolveOwn context
        ⟨kind, tag, nesting, attrs, content, markup, info, block, hidden, label, children⟩

/-- Resolve the destinations in the children of an inline token. -/
def resolveChildren (context : Context) : Option (List Token) → Option (List Token)
  | none => none
  | some children => some (resolveList context children)

/-- Resolve the destinations in each token of a list. -/
def resolveList (context : Context) : List Token → List Token
  | [] => []
  | token :: rest => resolveLinks context token :: resolveList context rest

end

theorem resolveList_eq_map (context : Context) (tokens : List Token) :
    resolveList context tokens = tokens.map (resolveLinks context) := by
  induction tokens with
  | nil => rfl
  | cons token rest ih => simp [resolveList, ih]

/-- An inline token is resolved child by child and keeps the rest. -/
theorem resolveLinks_of_inline (context : Context) (token : Token) (h : token.kind = .inline) :
    token.resolveLinks context =
      { token with children := token.children.map (·.map (resolveLinks context)) } := by
  obtain ⟨kind, tag, nesting, attrs, content, markup, info, block, hidden, label, children⟩ := token
  subst h
  cases children <;> simp [resolveLinks, resolveChildren, resolveList_eq_map]

/-- Any other token is resolved in its own destination only. -/
theorem resolveLinks_of_ne_inline (context : Context) (token : Token) (h : token.kind ≠ .inline) :
    token.resolveLinks context = token.resolveOwn context := by
  obtain ⟨kind, tag, nesting, attrs, content, markup, info, block, hidden, label, children⟩ := token
  exact if_neg h

end Token

end Folio
