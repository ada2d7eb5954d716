import Epics.CommandLine.Usage

/-!
# What a refusal quotes

A refusal quotes at most one argument, or a part of one, with dashes in front.  If
the arguments have no controls, it is therefore written to a stream as it reads.
-/

namespace Epics

variable {refusal : Refusal} {values arguments : List Text}

/-- The part of the arguments that a refusal quotes. -/
def Refusal.quoted : Refusal → Text
  | .unknown argument _ _ => argument
  | .attached _ value _ => value
  | .help | .version | .empty _ => []

@[simp] theorem Refusal.quoted_empty (slot : Slot) : (Refusal.empty slot).quoted = [] := rfl

@[simp] theorem Flag.quoted_refusal (flag : Flag) : flag.refusal.quoted = [] := by
  cases flag <;> rfl

/-- The words of a refusal depend only on how the part that it quotes is shown. -/
theorem Refusal.wordsWith_congr {shown other : Text → Text}
    (same : shown refusal.quoted = other refusal.quoted) :
    refusal.wordsWith shown = refusal.wordsWith other := by
  unfold wordsWith
  cases refusal with
  | help => rfl
  | version => rfl
  | unknown argument hint given =>
      have same : shown argument = other argument := same
      dsimp only
      rw [same]
  | attached flag value followed =>
      have same : shown value = other value := same
      dsimp only
      rw [same]
  | empty slot => rfl

namespace Arguments

/-- Of an argument with two dashes, a part is quoted. -/
theorem quoted_refuseLong (values : List Text) (argument : Text) :
    (refuseLong values argument).quoted ⊆ '-' :: '-' :: argument := by
  have behind : argument ⊆ '-' :: '-' :: argument := by simp
  have after := (List.dropWhile_suffix (l := argument) (· != '=')).subset
  unfold refuseLong
  dsimp only
  split
  · -- A flag with nothing attached quotes nothing.
    split <;> simp
  case h_2 flag _ value _ attached =>
    rw [attached] at after
    exact List.Subset.trans (List.Subset.trans (List.subset_cons_self _ _) after) behind
  · have name := List.takeWhile_subset (p := (· != '=')) (l := argument)
    exact List.cons_subset_cons _ (List.cons_subset_cons _ name)

/-- Of an argument with one dash, the dash and the letter behind it are quoted. -/
theorem quoted_refuseShort (values : List Text) (letter : Char) :
    (refuseShort values letter).quoted ⊆ ['-', letter] := by
  unfold refuseShort
  split
  · split <;> simp
  · exact List.Subset.refl _

/-- Of a value that is one too many, all is quoted. -/
theorem quoted_of_addValue_error {value : Text}
    (refused : addValue values value = .error refusal) : refusal.quoted ⊆ value := by
  unfold addValue at refused
  split at refused
  · cases refused
    exact List.Subset.refl _
  · split at refused <;> cases refused
    simp

/-- What is quoted is made of dashes and of characters of the arguments. -/
theorem quoted_of_parseFrom_error {escaped : Bool}
    (refused : parseFrom values escaped arguments = .error refusal) :
    refusal.quoted ⊆ '-' :: arguments.flatten := by
  induction arguments generalizing values escaped with
  | nil =>
      unfold parseFrom at refused
      split at refused <;> cases refused
      simp
  | cons argument later ih =>
      have first : argument ⊆ '-' :: (argument :: later).flatten := by simp
      have others : '-' :: later.flatten ⊆ '-' :: (argument :: later).flatten :=
        List.cons_subset_cons _ (by simp)
      unfold parseFrom at refused
      split at refused
      · exact List.Subset.trans (ih refused) others
      case h_2 long _ =>
        cases refused
        exact List.Subset.trans (quoted_refuseLong values long) first
      case h_3 letter behind _ _ =>
        cases refused
        have name : ['-', letter] ⊆ '-' :: letter :: behind := by simp
        exact List.Subset.trans (List.Subset.trans (quoted_refuseShort values letter) name) first
      · split at refused
        case h_1 added =>
          cases refused
          exact List.Subset.trans (quoted_of_addValue_error added) first
        · exact List.Subset.trans (ih refused) others

end Arguments

/-- The refusal of arguments without controls is written to a stream as it reads. -/
theorem Refusal.written_eq_message (refused : Arguments.parse arguments = .error refusal)
    (printable : ∀ argument ∈ arguments, Text.IsPrintable argument) :
    refusal.written = refusal.message := by
  have quoted : Text.IsPrintable refusal.quoted := by
    intro char member
    rcases List.mem_cons.mp (Arguments.quoted_of_parseFrom_error refused member) with
      rfl | inside
    · decide
    · obtain ⟨argument, given, within⟩ := List.mem_flatten.mp inside
      exact printable argument given char within
  exact wordsWith_congr ((Text.streamed_eq_self quoted).trans (Text.plain_eq_self quoted).symm)

end Epics
