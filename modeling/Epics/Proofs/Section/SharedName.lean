import Epics.Proofs.FileName
import Epics.Proofs.Section.Extracted

/-!
# Sections that share a file name

The name of the file of a section begins with the number of its title, and what
follows the colon never begins with a digit there.  The number can therefore be
read back from the name, and two sections share a name only if they have the same
number, digit by digit.
-/

namespace Epics

namespace FileName

/-- Digits stand in a file name as they are. -/
theorem spelled_digits_append {digits : Text}
    (allDigits : ∀ digit ∈ digits, digit.isDigit = true) (text : Text) :
    spelled (digits ++ text) = digits ++ spelled text := by
  have plain : ∀ digit ∈ digits, isPlain digit = true := by
    intro digit member
    have alphanumeric : digit.isAlphanum = true := by
      rw [Char.isAlphanum, allDigits digit member, Bool.or_true]
    rw [isPlain, Text.isAlphanumeric_of_isAlphanum alphanumeric]
    rfl
  rw [spelled_append, spelled_of_isPlain plain]

/-- The name of a title is made of the word in the marker, the number and what
follows the colon. -/
theorem stem_marker_append {digits : Text}
    (allDigits : ∀ digit ∈ digits, digit.isDigit = true) (remainder : Text) :
    stem (Heading.marker ++ (digits ++ ':' :: remainder)) =
      "Epic_".toList ++ (digits ++ spelled remainder) := by
  have keptMarker : Heading.marker.filter isKept = ' ' :: "Epic ".toList := by decide
  have stops (text : Text) : ("Epic ".toList ++ text).dropWhile (· == ' ') =
      "Epic ".toList ++ text := rfl
  have word : "Epic ".toList.map written = "Epic_".toList := by decide
  calc
    stem (Heading.marker ++ (digits ++ ':' :: remainder)) =
        "Epic_".toList ++ spelled (digits ++ ':' :: remainder) := by
      rw [stem, List.filter_append, keptMarker, List.cons_append,
        List.dropWhile_cons_of_pos (by decide), stops, List.map_append, word]
      rfl
    _ = "Epic_".toList ++ (digits ++ spelled remainder) := by
      rw [spelled_digits_append allDigits]
      rfl

end FileName

namespace Heading

/-- The digits behind the marker of a title. -/
def number (title : Text) : Text :=
  (title.drop marker.length).takeWhile Char.isDigit

/-- What follows the colon behind the number of a title. -/
def remainder (title : Text) : Text :=
  ((title.drop marker.length).dropWhile Char.isDigit).drop 1

/-- A title is made of the marker, a number, a colon, and then nothing or a space
with more behind it. -/
structure IsNumbered (title : Text) : Prop where
  eq : title = marker ++ (number title ++ ':' :: remainder title)
  someDigit : number title ≠ []
  allDigits : ∀ digit ∈ number title, digit.isDigit = true
  space : remainder title = [] ∨ ∃ more, remainder title = ' ' :: more

theorem number_marker_append {digits : Text}
    (allDigits : ∀ digit ∈ digits, digit.isDigit = true) (rest : Text) :
    number (marker ++ (digits ++ ':' :: rest)) = digits := by
  rw [number, List.drop_left, List.takeWhile_append_of_pos allDigits]
  exact List.append_nil digits

theorem remainder_marker_append {digits : Text}
    (allDigits : ∀ digit ∈ digits, digit.isDigit = true) (rest : Text) :
    remainder (marker ++ (digits ++ ':' :: rest)) = rest := by
  rw [remainder, List.drop_left, List.dropWhile_append_of_pos allDigits]
  rfl

/-- A trimmed heading keeps its number and its colon. -/
theorem isNumbered_trim {heading : Text} (isHeading : IsHeading heading) :
    IsNumbered (Text.trim heading) := by
  obtain ⟨after, split, afterBlank⟩ := exists_eq_trim_append isHeading
  obtain ⟨digits, rest, headingEq, someDigit, allDigits, _⟩ := isHeading
  have inHeading : (marker ++ digits) ++ [':'] <+: Text.trim heading ++ after := by
    rw [← split, headingEq]
    exact ⟨' ' :: rest, by simp [separator]⟩
  obtain ⟨behind, titleEq⟩ :=
    Text.concat_prefix_of_isBlank afterBlank (by decide) inHeading
  rw [List.append_assoc, List.append_assoc, List.singleton_append] at titleEq
  have behindColon : behind ++ after = ' ' :: rest := by
    rw [← titleEq, headingEq] at split
    simpa [separator] using split.symm
  have space : behind = [] ∨ ∃ more, behind = ' ' :: more := by
    cases behind with
    | nil => exact Or.inl rfl
    | cons char more =>
        obtain ⟨rfl, _⟩ := List.cons.inj behindColon
        exact Or.inr ⟨more, rfl⟩
  have numberEq := number_marker_append allDigits behind
  have remainderEq := remainder_marker_append allDigits behind
  rw [titleEq] at numberEq remainderEq
  constructor
  · rw [numberEq, remainderEq, titleEq]
  · rwa [numberEq]
  · rwa [numberEq]
  · rwa [remainderEq]

end Heading

namespace FileName

open Heading

/-- What follows the number in a file name begins with no digit. -/
theorem takeWhile_isDigit_spelled {text : Text} (space : text = [] ∨ ∃ more, text = ' ' :: more) :
    (spelled text).takeWhile Char.isDigit = [] := by
  rcases space with rfl | ⟨more, rfl⟩
  · rfl
  · rw [spelled_space_cons]
    exact List.takeWhile_cons_of_neg (by decide)

/-- The file name of a title gives its number and the kept characters behind it. -/
theorem ofTitle_inj_iff {title other : Text} (numbered : IsNumbered title)
    (otherNumbered : IsNumbered other) :
    ofTitle title = ofTitle other ↔
      number title = number other ∧ spelled (remainder title) = spelled (remainder other) := by
  have digitsOf {name : Text} (isNumbered : IsNumbered name) :
      (number name ++ spelled (remainder name)).takeWhile Char.isDigit = number name := by
    rw [List.takeWhile_append_of_pos isNumbered.allDigits,
      takeWhile_isDigit_spelled isNumbered.space, List.append_nil]
  have stemOf {name : Text} (isNumbered : IsNumbered name) :
      stem name = "Epic_".toList ++ (number name ++ spelled (remainder name)) := by
    conv => lhs; rw [isNumbered.eq]
    exact stem_marker_append isNumbered.allDigits _
  rw [ofTitle, ofTitle, List.append_left_inj, stemOf numbered, stemOf otherNumbered,
    List.append_right_inj]
  constructor
  · intro same
    have sameNumber : number title = number other := by
      rw [← digitsOf numbered, same, digitsOf otherNumbered]
    rw [sameNumber] at same
    exact ⟨sameNumber, List.append_cancel_left same⟩
  · rintro ⟨sameNumber, sameRest⟩
    rw [sameNumber, sameRest]

end FileName

namespace Section

variable {first second : Section} {text other : Text}

/-- Two sections, of one document or of two, share a file name exactly when their
titles have the same digits as number and differ behind the colon in dropped
characters and in spaces for underscores only.  Where the numbers differ, the
files have different paths in every directory. -/
theorem ofTitle_title_eq_iff (inText : first ∈ ofDocument text)
    (inOther : second ∈ ofDocument other) :
    Heading.IsNumbered first.title ∧ Heading.IsNumbered second.title ∧
    (FileName.ofTitle first.title = FileName.ofTitle second.title ↔
      Heading.number first.title = Heading.number second.title ∧
        FileName.spelled (Heading.remainder first.title) =
          FileName.spelled (Heading.remainder second.title)) ∧
    (Heading.number first.title ≠ Heading.number second.title → ∀ directory,
      Path.join directory (FileName.ofTitle first.title) ≠
        Path.join directory (FileName.ofTitle second.title)) := by
  have numbered {part : Section} (extracted : IsExtracted part) :
      Heading.IsNumbered part.title := by
    obtain ⟨heading, titleEq, isHeading, _⟩ := extracted.fromHeading
    rw [titleEq]
    exact Heading.isNumbered_trim isHeading
  have firstNumbered := numbered (isExtracted_of_mem_ofDocument inText)
  have secondNumbered := numbered (isExtracted_of_mem_ofDocument inOther)
  have sharedIff := FileName.ofTitle_inj_iff firstNumbered secondNumbered
  refine ⟨firstNumbered, secondNumbered, sharedIff, fun differs directory sharesPath => ?_⟩
  exact differs (sharedIff.mp (Path.join_right_inj.mp sharesPath)).1

/-- A space for an underscore and a dropped mark leave two documents with one file
name, but a digit that moves from the text of a title into its number does not. -/
theorem ofTitle_title_across_documents :
    let part : Section := ⟨"## Epic 1: 2 x".toList, []⟩
    let shares : Section := ⟨"## Epic 1: 2_x!".toList, []⟩
    let apart : Section := ⟨"## Epic 12: x".toList, []⟩
    let text := "## Epic 1: 2 x".toList
    let other := "## Epic 12: x\n## Epic 1: 2_x!".toList
    part ∈ ofDocument text ∧ shares ∈ ofDocument other ∧ apart ∈ ofDocument other ∧
    FileName.ofTitle part.title = FileName.ofTitle shares.title ∧
    ∀ directory, Path.join directory (FileName.ofTitle part.title) ≠
      Path.join directory (FileName.ofTitle apart.title) := by
  intro part shares apart text other
  have inText : part ∈ ofDocument text := by decide +kernel
  have sharesInOther : shares ∈ ofDocument other := by decide +kernel
  have apartInOther : apart ∈ ofDocument other := by decide +kernel
  have sharing := (ofTitle_title_eq_iff inText sharesInOther).2.2.1
  have differing := (ofTitle_title_eq_iff inText apartInOther).2.2.2
  refine ⟨inText, sharesInOther, apartInOther, sharing.mpr ⟨?_, ?_⟩, differing ?_⟩
  · decide +kernel
  · decide +kernel
  · decide +kernel

end Section
end Epics
