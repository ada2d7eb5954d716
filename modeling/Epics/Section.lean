import Epics.Heading
import Epics.Text.Slice
import Epics.Text.WhiteSpace

/-!
# Sections

A section is a heading line with the text below it, up to the next heading line
or the end of the document, both without the white space around them.
-/

namespace Epics

/-- One titled section of a document. -/
structure Section where
  title : Text
  body : Text
  deriving DecidableEq, Repr

namespace Section

/-- The content of the file of a section: title, empty line, body, line feed. -/
def render (part : Section) : Text :=
  part.title ++ "\n\n".toList ++ part.body ++ "\n".toList

/-- Where the body of a section ends: at the next heading, or at the end of the text. -/
def bodyStop (text : Text) : (later : List Text.Span) → Nat
  | [] => Text.utf8Size text
  | next :: _ => next.start

/-- The sections of a text whose headings stand at the given spans. -/
def ofSpans (text : Text) : List Text.Span → List Section
  | [] => []
  | heading :: later =>
      { title := Text.trim (Text.slice text heading.start heading.stop)
        body := Text.trim (Text.slice text heading.stop (bodyStop text later)) } ::
          ofSpans text later

/-- The sections of a document, in order; what stands above the first heading
belongs to none. -/
def ofDocument (text : Text) : List Section :=
  ofSpans text (Heading.spans text)

end Section
end Epics
