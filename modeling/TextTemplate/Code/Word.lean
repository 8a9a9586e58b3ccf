import TextTemplate.Code.Token
import TextTemplate.Text.IdentifierStart
import TextTemplate.Text.IdentifierContinue

/-!
# Words

Identifiers and keywords are written alike: a start character, then continue characters. A word may
be marked `r#`, which keeps it from being a keyword.

- `Word.split?`: the plain word at the front of a text and what follows it.
- `Word.splitAny?`: the same with the raw form allowed.
- `Word.isPlain`: a whole text is one plain word.
- `Word.dropSuffix`: what follows the optional word that is glued to a literal.
-/

namespace TextTemplate

namespace Word

open Text

/-- The plain word at the front of a text, and the rest. -/
def split? : List Char → Option (List Char × List Char)
  | [] => none
  | c :: s =>
    if isIdentifierStart c then
      some (c :: s.takeWhile isIdentifierContinue, s.dropWhile isIdentifierContinue)
    else none

/-- A word split off a text and the rest make up the text, and the word is not empty. -/
theorem append_of_split? {s w r : List Char} (h : split? s = some (w, r)) :
    w ++ r = s ∧ w ≠ [] := by
  cases s with
  | nil => simp [split?] at h
  | cons c s =>
    by_cases hc : isIdentifierStart c <;> simp [split?, hc] at h
    obtain ⟨rfl, rfl⟩ := h
    exact ⟨by simp [List.takeWhile_append_dropWhile], by simp⟩

/-- The words that have no raw form. -/
def neverRaw : List (List Char) :=
  ["_".toList, "super".toList, "self".toList, "Self".toList, "crate".toList]

/-- The word at the front of a text, in its plain or raw form, and the rest. -/
def splitAny? : List Char → Option (List Char × List Char)
  | 'r' :: '#' :: s =>
    match split? s with
    | some (w, r) => if w ∈ neverRaw then none else some ('r' :: '#' :: w, r)
    | none => none
  | s => split? s

/-- Whether a text is one plain word and nothing else. -/
def isPlain : List Char → Bool
  | [] => false
  | c :: s => isIdentifierStart c && s.all isIdentifierContinue

/-- What is left of a text without the plain word at its front, if there is one. -/
def dropSuffix (s : List Char) : List Char :=
  match split? s with
  | some (_, r) => r
  | none => s

/-- Whether a text goes on with a character that would continue a word. -/
def continues : List Char → Bool
  | c :: _ => isIdentifierContinue c
  | [] => false

/-- Whether a text starts like a word. -/
def starts : List Char → Bool
  | c :: _ => isIdentifierStart c
  | [] => false

end Word

end TextTemplate
