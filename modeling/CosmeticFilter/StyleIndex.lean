/-
The styles of a page.

The styles of a list of sheets are those of their rules, in order.  Sheets of another
origin and sheets that refuse access to their rules are skipped.
-/
import CosmeticFilter.Page
import CosmeticFilter.Style
import CosmeticFilter.Url.Origin

namespace CosmeticFilter

/-- Why a style sheet has no share in the styles of a page. -/
inductive SkippedSheet where
  | foreign (href : Option String)
  | refused (href : Option String)
  deriving DecidableEq, Repr

/-- What a sheet says that refuses access to its rules. -/
def refusalMessage : Option String → String
  | some href => "access to the rules of style sheet " ++ href ++ " was denied"
  | none => "access to the rules of an inline style sheet was denied"

def SkippedSheet.message : SkippedSheet → String
  | foreign href => "Skipping cross-origin style sheet " ++ Text.quoted? href
  | refused href => "Skipping style sheet: " ++ refusalMessage href

namespace Page

variable {N S : Type} (page : Page N S)

/-- The styles of one sheet, or why it is skipped. -/
def sheetStyles (sheet : S) : Except SkippedSheet (List Style) :=
  let href := page.href? sheet
  if Url.sameOrigin href page.location then
    match page.rules? sheet with
    | some rules => .ok ((rules.filterMap Css.Rule.style?).map Style.ofRule)
    | none => .error (.refused href)
  else .error (.foreign href)

/-- The styles of a list of sheets. -/
def styles (sheets : List S) : List Style :=
  sheets.flatMap fun sheet => ((page.sheetStyles sheet).toOption).getD []

/-- The sheets of a list that are skipped. -/
def skippedSheets (sheets : List S) : List SkippedSheet :=
  sheets.filterMap fun sheet =>
    match page.sheetStyles sheet with
    | .ok _ => none
    | .error skipped => some skipped

end Page

end CosmeticFilter
