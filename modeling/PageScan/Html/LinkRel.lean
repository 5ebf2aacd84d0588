import PageScan.Html.Category
import PageScan.Text.Ascii
import PageScan.Text.Pieces

/-!
# The relation of a link

The `rel` attribute of a `link` lists what the linked resource is to the document. Its tokens are
the non-empty pieces between spaces, compared without regard to ASCII case. `linkCategory` reads
the category off them.
-/

namespace PageScan.Html

open Text

/-- The tokens of a `rel` value in folded spelling. -/
def relTokens (rel : String) : List (List Char) := (pieces ' ' (fold rel)).filter (!·.isEmpty)

/-- The tokens are cut off the folded value, so that the case of letters is gone. -/
theorem relTokens_congr {rel rel' : String} (h : sameName rel rel' = true) :
    relTokens rel = relTokens rel' := by
  rw [relTokens, relTokens, sameName_iff.1 h]

/-- Whether a token spells the given name. -/
def isToken (name : String) (token : List Char) : Bool := token == name.toList

/-- The tokens for an icon. -/
def isIconToken (token : List Char) : Bool :=
  isToken "icon" token || isToken "apple-touch-icon" token ||
    isToken "apple-touch-icon-precomposed" token || isToken "apple-touch-startup-image" token

/-- The tokens for something to fetch or resolve ahead of time. -/
def isPrefetchToken (token : List Char) : Bool :=
  isToken "prefetch" token || isToken "dns-prefetch" token

/-- Whether a `rel` value names a stylesheet, alternate or not. -/
def isStylesheet (rel : String) : Bool := (relTokens rel).any (isToken "stylesheet")

/-- Whether a `rel` value names an alternate stylesheet. -/
def isAlternateStylesheet (rel : String) : Bool :=
  isStylesheet rel && (relTokens rel).any (isToken "alternate")

/-- Looks through the tokens in order. An icon ends the search; something to prefetch is kept in
mind, as an icon may still follow. -/
def refineLink (found : Category) : List (List Char) → Category
  | [] => found
  | token :: tokens =>
    if isIconToken token then .image
    else refineLink (if isPrefetchToken token then .prefetch else found) tokens

/-- **The category of a link** by its `rel` value, if it has one. -/
def linkCategory : Option String → Category
  | none => .hyperlink
  | some rel => if isStylesheet rel then .stylesheet else refineLink .hyperlink (relTokens rel)

end PageScan.Html
