import FlatQuery.Pattern.Basic
import FlatQuery.Text.WordChar

namespace FlatQuery

-- A letter also stands for the characters that share its simple case folding: a long s for `s`, and
-- the Kelvin sign for `k`.
def foldsTo (letter c : Char) : Bool :=
  c.toLower == letter || (letter == 's' && c == '\u017f') || (letter == 'k' && c == '\u212a')

def afterFolded : Text → Text → Option Text
  | [], t => some t
  | _ :: _, [] => none
  | letter :: word, c :: t => if foldsTo letter c then afterFolded word t else none

theorem afterFolded_length {word t rest : Text} (h : afterFolded word t = some rest) :
    t.length = word.length + rest.length := by
  induction word generalizing t with
  | nil => simp_all [afterFolded]
  | cons letter word ih =>
    cases t with
    | nil => simp [afterFolded] at h
    | cons c t =>
      simp only [afterFolded] at h
      split at h
      · simp [ih h]; omega
      · simp at h

def startsWord (t : Text) : Bool :=
  t.head?.any isWordChar

def wholeWordLength (words : List Text) (prev : Option Char) (t : Text) : Option Nat :=
  if prev.any isWordChar then
    none
  else
    words.findSome? fun word =>
      match afterFolded word t with
      | some rest => if startsWord rest then none else some word.length
      | none => none

theorem wholeWordLength_within {words : List Text} (nonempty : ∀ w ∈ words, w ≠ []) {prev t n}
    (h : wholeWordLength words prev t = some n) : 0 < n ∧ n ≤ t.length := by
  simp only [wholeWordLength] at h
  split at h
  · simp at h
  · obtain ⟨word, mem, eq⟩ := List.exists_of_findSome?_eq_some h
    split at eq
    · rename_i rest hrest
      split at eq
      · simp at eq
      · simp only [Option.some.injEq] at eq
        have := afterFolded_length hrest
        have := List.length_pos_iff.mpr (nonempty word mem)
        omega
    · simp at eq

-- Any of `words`, in any letter case and with no word character on either side.
def Pattern.wholeWord (words : List Text) (nonempty : ∀ w ∈ words, w ≠ []) : Pattern where
  matchLength := wholeWordLength words
  within := wholeWordLength_within nonempty

end FlatQuery
