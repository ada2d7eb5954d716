import Epics.EventFilter.Directive

/-!
# Filters for events

A filter lets events through by their level and by the part of the program they
come from.  It is written as a list of directives with commas between them; of
the directives that select an event the most specific one decides.  A list that
spells no filter is passed over for the standard one, but no filter at all comes of a
list whose reading breaks off.
-/

namespace Epics

/-- A filter is the list of its directives. -/
abbrev EventFilter := List Directive

namespace EventFilter

/-- The parts of a text that are to spell the directives of a filter; empty parts of
the list are left out. -/
def parts (text : Text) : List Text :=
  (Text.pieces ',' text).filter (· ≠ [])

/-- The filter that a text spells.  Of the parts that do not read the first one says
why the text does not. -/
def parse (text : Text) : Except Misreading EventFilter :=
  (parts text).mapM Directive.parse

/-- The filter that stands in when no filter is given or none can be read. -/
def standard : EventFilter := [⟨none, .everywhere, some .info⟩]

/-- The filter that a setting asks for, or `none` when the reading of the setting
breaks off. -/
def ofSetting? : Option Text → Option EventFilter
  | none => some standard
  | some text =>
      match parse text with
      | .ok filter => some filter
      | .error .malformed => some standard
      | .error .insideCharacter => none

/-- The directive that decides on an event: the most specific one that selects
it, and of equally specific ones the last. -/
def deciding (filter : EventFilter) (event : Event) : Option Directive :=
  (filter.filter (·.selects event)).foldl
    (fun best directive =>
      match best with
      | some found =>
          if found.specificity ≤ directive.specificity then some directive else some found
      | none => some directive)
    none

/-- A filter lets an event through when the directive that decides on it does. -/
def allows (filter : EventFilter) (event : Event) : Bool :=
  (filter.deciding event).any (·.admits event)

end EventFilter
end Epics
