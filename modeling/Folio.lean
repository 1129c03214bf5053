import Folio.File.Tree
import Folio.Main
import Folio.Proofs.Path.Normal
import Folio.Proofs.Text.LowerCase
import Folio.Proofs.Path.Anchor
import Folio.Proofs.Footnote.Collect
import Folio.Proofs.Link.CrossChapter
import Folio.Proofs.Link.Moved
import Folio.Proofs.Link.PrintPage
import Folio.Proofs.Link.Table
import Folio.Proofs.Anchor.Counter
import Folio.Proofs.Page.Heading
import Folio.Proofs.Page.HeadingText
import Folio.Proofs.Book.Rendering
import Folio.Proofs.Book.HeadingIds
import Folio.Proofs.Anchor.Issued
import Folio.Proofs.Book.UniqueIds
import Folio.Proofs.Book.FootnoteIds
import Folio.Proofs.Footnote.Numbering
import Folio.Proofs.Footnote.Listing
import Folio.Proofs.Footnote.Placement
import Folio.Proofs.Footnote.Backlinks
import Folio.Proofs.Book.Chapters
import Folio.Proofs.Anchor.Run
import Folio.Proofs.Page.UniqueIds
import Folio.Proofs.Book.Nesting
import Folio.Proofs.Path.Canonical
import Folio.Proofs.Footnote.Appendix
import Folio.Proofs.Link.Standalone
import Folio.Proofs.Link.SamePage
import Folio.Proofs.Link.RawHtml
import Folio.Proofs.Page.ShownText
import Folio.Proofs.Book.Plain
import Folio.Proofs.Config.Build
import Folio.Proofs.Link.OwnHeading
import Folio.Proofs.Link.Sibling
import Folio.Proofs.Book.PageIds
import Folio.Proofs.Link.Joining
import Folio.Proofs.Footnote.Labels
import Folio.Proofs.Page.Passes
import Folio.Proofs.Markdown.HeadingAttributes
