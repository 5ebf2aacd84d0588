import PageScan.Text.Ascii

/-!
# Tags of HTML

A `Tag` is one of the tags that may carry a resource, or any other one. Tag names are recognised
without regard to ASCII case.
-/

namespace PageScan.Html

/-- The tags that matter to the classifier; all others are alike. -/
inductive Tag where
  | a
  | area
  | audio
  | blockquote
  | body
  | button
  | command
  | del
  | embed
  | form
  | frame
  | html
  | iframe
  | img
  | input
  | ins
  | link
  | q
  | script
  | source
  | table
  | tbody
  | td
  | tfoot
  | th
  | thead
  | track
  | video
  | other
  deriving DecidableEq, Repr

namespace Tag

/-- The tags with a name, in alphabetical order. -/
def named : List Tag :=
  [a, area, audio, blockquote, body, button, command, del, embed, form, frame, html, iframe, img,
  input, ins, link, q, script, source, table, tbody, td, tfoot, th, thead, track, video]

/-- The name of a tag; the other tags have none. -/
def spelling : Tag → String
  | a => "a"
  | area => "area"
  | audio => "audio"
  | blockquote => "blockquote"
  | body => "body"
  | button => "button"
  | command => "command"
  | del => "del"
  | embed => "embed"
  | form => "form"
  | frame => "frame"
  | html => "html"
  | iframe => "iframe"
  | img => "img"
  | input => "input"
  | ins => "ins"
  | link => "link"
  | q => "q"
  | script => "script"
  | source => "source"
  | table => "table"
  | tbody => "tbody"
  | td => "td"
  | tfoot => "tfoot"
  | th => "th"
  | thead => "thead"
  | track => "track"
  | video => "video"
  | other => ""

/-- The tag with the given name. -/
def ofName (name : String) : Tag :=
  (named.find? fun t => Text.sameName t.spelling name).getD other

/-- Tag names that differ in ASCII case only are names of one tag. -/
theorem ofName_congr {a b : String} (h : Text.sameName a b = true) : ofName a = ofName b := by
  simp only [ofName, Text.sameName, Text.sameName_iff.1 h]

end Tag

end PageScan.Html
