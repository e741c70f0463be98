/-!
# Starts and ends of texts

`between?` takes off what a text starts and ends with (`between?_eq_some_iff`);
`dropFinalNewline` takes off one line feed at the end.
-/

namespace Prerender.Text

/-- A text without the line feed that ends it, if one does. -/
def dropFinalNewline (text : List Char) : List Char :=
  if text.getLast? = some '\n' then text.dropLast else text

/-- What stands between an opening and a closing text, if those are where a text starts and
ends. -/
def between? (opening closing text : List Char) : Option (List Char) :=
  if opening.length + closing.length ≤ text.length
      ∧ opening.isPrefixOf text ∧ closing.isSuffixOf text then
    some ((text.drop opening.length).take (text.length - opening.length - closing.length))
  else none

theorem between?_eq_some_iff {opening closing text inner : List Char} :
    between? opening closing text = some inner ↔ text = opening ++ inner ++ closing := by
  unfold between?
  constructor
  · intro found
    split at found
    next fits =>
      obtain ⟨length, starts, ends⟩ := fits
      obtain ⟨rest, rfl⟩ := List.isPrefixOf_iff_prefix.mp starts
      obtain ⟨front, same⟩ := List.isSuffixOf_iff_suffix.mp ends
      have whole : closing <:+ opening ++ rest := ⟨front, same⟩
      have inside : closing <:+ rest :=
        List.suffix_of_suffix_length_le whole (List.suffix_append _ _) (by simpa using length)
      obtain ⟨middle, rfl⟩ := inside
      cases found
      simp
    next => cases found
  · rintro rfl
    have starts : opening <+: opening ++ inner ++ closing := ⟨inner ++ closing, by simp⟩
    have ends : closing <:+ opening ++ inner ++ closing := ⟨opening ++ inner, by simp⟩
    rw [if_pos ⟨by simp, List.isPrefixOf_iff_prefix.mpr starts,
      List.isSuffixOf_iff_suffix.mpr ends⟩]
    simp

/-- Whether a text starts with one of some characters. -/
def startsWithAny (marks : List Char) (text : String) : Bool :=
  match text.toList with
  | c :: _ => marks.contains c
  | [] => false

end Prerender.Text
