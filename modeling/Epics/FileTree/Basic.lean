import Epics.Path
import Epics.Utf8

/-!
# File trees

A file tree records what stands at each place below the working directory.  Its
view is `get?`: what an operation does to a tree is said by what it does to the
entry at each place.

A tree has no permissions, no capacity and no second names for one file: everyone may
read and write all of it, there is always room for a file, and a content that is
written shows at one place only.
-/

namespace Epics

/-- What can stand at a place of a file tree. -/
inductive Entry
  | directory
  | file (content : Bytes)
  | link (target : Text)
  deriving DecidableEq, Repr

/-- A place in a file tree: the names on the way from it up to the working
directory, which is the place without names. -/
abbrev Location := List Text

/-- The entries below the working directory, each with its place.  Nothing is recorded
but what stands there: no owner or permission, no size of the disk, and no file that two
places share. -/
structure FileTree where
  entries : List (Location × Entry)
  deriving DecidableEq, Repr

namespace FileTree

/-- The tree with nothing below the working directory. -/
def empty : FileTree := ⟨[]⟩

/-- The first entry recorded for a place. -/
def find? (place : Location) : List (Location × Entry) → Option Entry
  | [] => none
  | (other, entry) :: more => if other = place then some entry else find? place more

/-- The recorded entries with the one for a place replaced, or added at the end. -/
def replace (place : Location) (entry : Entry) :
    List (Location × Entry) → List (Location × Entry)
  | [] => [(place, entry)]
  | (other, old) :: more =>
      if other = place then (other, entry) :: more else (other, old) :: replace place entry more

/-- What stands at a place; the working directory always is a directory. -/
def get? (tree : FileTree) (place : Location) : Option Entry :=
  if place = [] then some .directory else find? place tree.entries

/-- The tree with an entry put at a place. -/
def set (tree : FileTree) (place : Location) (entry : Entry) : FileTree :=
  ⟨replace place entry tree.entries⟩

/-- The tree without a place and all places below it. -/
def remove (tree : FileTree) (place : Location) : FileTree :=
  ⟨tree.entries.filter fun recorded => !place.isSuffixOf recorded.1⟩

theorem find?_replace_self (place : Location) (entry : Entry)
    (entries : List (Location × Entry)) :
    find? place (replace place entry entries) = some entry := by
  induction entries with
  | nil => simp [replace, find?]
  | cons recorded more ih =>
      by_cases same : recorded.1 = place
      · simp [replace, find?, same]
      · simp [replace, find?, same, ih]

theorem find?_replace_of_ne {place other : Location} (different : other ≠ place)
    (entry : Entry) (entries : List (Location × Entry)) :
    find? other (replace place entry entries) = find? other entries := by
  induction entries with
  | nil => simp [replace, find?, Ne.symm different]
  | cons recorded more ih =>
      by_cases same : recorded.1 = place
      · simp [replace, find?, same, Ne.symm different]
      · simp [replace, find?, same, ih]

theorem replace_of_find? {place : Location} {entry : Entry}
    {entries : List (Location × Entry)} (found : find? place entries = some entry) :
    replace place entry entries = entries := by
  induction entries with
  | nil => simp [find?] at found
  | cons recorded more ih =>
      by_cases same : recorded.1 = place
      · simp only [find?, same, if_true, Option.some.injEq] at found
        simp [replace, same, ← found]
        rw [← same]
      · simp only [find?, same, if_false] at found
        simp [replace, same, ih found]

theorem replace_replace (place : Location) (first second : Entry)
    (entries : List (Location × Entry)) :
    replace place second (replace place first entries) = replace place second entries := by
  induction entries with
  | nil => simp [replace]
  | cons recorded more ih =>
      by_cases same : recorded.1 = place
      · simp [replace, same]
      · simp [replace, same, ih]

theorem replace_comm {place other : Location} (different : other ≠ place) {entry last : Entry}
    {entries : List (Location × Entry)} (recorded : find? place entries ≠ none) :
    replace other last (replace place entry entries) =
      replace place entry (replace other last entries) := by
  induction entries with
  | nil => exact absurd rfl recorded
  | cons first more ih =>
      by_cases same : first.1 = place
      · simp [replace, same, Ne.symm different]
      · simp only [find?, same, if_false] at recorded
        by_cases isOther : first.1 = other
        · simp [replace, isOther, different]
        · simp [replace, same, isOther, ih recorded]

@[simp] theorem get?_nil (tree : FileTree) : tree.get? [] = some .directory := rfl

/-- What was put at a place stands there. -/
theorem get?_set_self {place : Location} (below : place ≠ []) (tree : FileTree)
    (entry : Entry) : (tree.set place entry).get? place = some entry := by
  simp [get?, set, below, find?_replace_self]

/-- Putting an entry at one place leaves all other places as they are. -/
theorem get?_set_of_ne {place other : Location} (different : other ≠ place)
    (tree : FileTree) (entry : Entry) :
    (tree.set place entry).get? other = tree.get? other := by
  simp [get?, set, find?_replace_of_ne different]

/-- Putting at a place what stands there already changes nothing. -/
theorem set_of_get? {place : Location} (below : place ≠ []) {tree : FileTree}
    {entry : Entry} (found : tree.get? place = some entry) :
    tree.set place entry = tree := by
  simp only [get?, below, if_false] at found
  simp [set, replace_of_find? found]

/-- Of two entries that are put at one place the second stays. -/
theorem set_set (tree : FileTree) (place : Location) (first second : Entry) :
    (tree.set place first).set place second = tree.set place second := by
  simp [set, replace_replace]

/-- Entries can be put at two places in either order if something stands at one of
them already. -/
theorem set_comm {place other : Location} (different : other ≠ place) (below : place ≠ [])
    {tree : FileTree} (stands : tree.get? place ≠ none) (entry last : Entry) :
    (tree.set place entry).set other last = (tree.set other last).set place entry := by
  simp only [get?, below, if_false] at stands
  simp [set, replace_comm different stands]

end FileTree
end Epics
