import Epics.Text.Alphanumeric

/-!
# File names

The name of the file that holds a section is made from the section's title, so
that titles which differ only in punctuation share a file.
-/

namespace Epics
namespace FileName

/-- The characters of a title that count for the name of its file. -/
def isKept (char : Char) : Bool :=
  Text.isAlphanumeric char || char == '_' || char == '-' || char == ' '

/-- A kept character as it stands in a file name. -/
def written (char : Char) : Char :=
  if char = ' ' then '_' else char

/-- The file name of a title without its extension: the kept characters from the
first one that is no space, with every space turned into an underscore. -/
def stem (title : Text) : Text :=
  ((title.filter isKept).dropWhile (· == ' ')).map written

/-- The extension of every file name. -/
def extension : Text := ".md".toList

/-- The name of the file that holds the section with a title. -/
def ofTitle (title : Text) : Text :=
  stem title ++ extension

end FileName
end Epics
