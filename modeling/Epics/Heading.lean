import Epics.Text.Search

/-!
# Headings

A heading opens a section of an epics document: at the start of a line the
marker of a second-level heading for an epic, a number, a colon and a space, and
then at least one character more.  It goes on to the end of its line, and a line
ends only at a line feed or at the end of the text.
-/

namespace Epics
namespace Heading

/-- What every heading begins with. -/
def marker : Text := "## Epic ".toList

/-- What stands between the number and the rest of a heading. -/
def separator : Text := ": ".toList

/-- The pattern of what stands behind the number of a heading. -/
def remainderPattern : List Text.Part :=
  separator.map .char ++ [.oneOrMore (· != '\n')]

/-- The pattern of a heading. -/
def pattern : List Text.Part :=
  .lineStart :: (marker.map .char ++ .oneOrMore Char.isDigit :: remainderPattern)

/-- Where the headings of a text stand. -/
def spans (text : Text) : List Text.Span :=
  Text.search pattern text

end Heading
end Epics
