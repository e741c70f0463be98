import Prerender.Pathname
import Prerender.Proofs.Text.Percent

/-!
# Components of a URL path

Components are not empty and hold no slash (`IsComponent`), those of a pathname
(`isComponent_of_mem_components`) as well as encoded texts (`isComponent_encodeComponent`).

* `components_joinSlashes`: joined with slashes, components are read back one by one. So are texts
  that may be empty (`pieces_joinSlashes`), but for a single empty one.
* `decodeComponent_encodeComponent`: an encoded text is decoded to itself.
-/

namespace Prerender

namespace Pathname

/-- What can stand between two slashes of a URL path. -/
def IsComponent (text : String) : Prop :=
  text ≠ "" ∧ '/' ∉ text.toList

/-! ### Pieces between slashes -/

theorem splitSlashes_ne_nil (text : List Char) : splitSlashes text ≠ [] := by
  cases text with
  | nil => exact List.cons_ne_nil _ _
  | cons c rest =>
    rw [splitSlashes]
    split
    · exact List.cons_ne_nil _ _
    · split <;> exact List.cons_ne_nil _ _

theorem splitSlashes_cons_of_ne {c : Char} (other : c ≠ '/') {text piece : List Char}
    {pieces : List (List Char)} (split : splitSlashes text = piece :: pieces) :
    splitSlashes (c :: text) = (c :: piece) :: pieces := by
  rw [splitSlashes, if_neg other, split]

theorem splitSlashes_append_slash {piece : List Char} (whole : '/' ∉ piece) (rest : List Char) :
    splitSlashes (piece ++ '/' :: rest) = piece :: splitSlashes rest := by
  induction piece with
  | nil => rw [List.nil_append, splitSlashes, if_pos rfl]
  | cons c piece ih =>
    rw [List.mem_cons, not_or] at whole
    exact splitSlashes_cons_of_ne (Ne.symm whole.1) (ih whole.2)

theorem splitSlashes_of_not_mem {piece : List Char} (whole : '/' ∉ piece) :
    splitSlashes piece = [piece] := by
  induction piece with
  | nil => rfl
  | cons c piece ih =>
    rw [List.mem_cons, not_or] at whole
    exact splitSlashes_cons_of_ne (Ne.symm whole.1) (ih whole.2)

/-- Pieces are split where they were joined. -/
theorem splitSlashes_append_flatMap {piece : List Char} {pieces : List (List Char)}
    (whole : '/' ∉ piece) (others : ∀ other ∈ pieces, '/' ∉ other) :
    splitSlashes (piece ++ pieces.flatMap ('/' :: ·)) = piece :: pieces := by
  induction pieces generalizing piece with
  | nil =>
    rw [List.flatMap_nil, List.append_nil]
    exact splitSlashes_of_not_mem whole
  | cons next rest ih =>
    have behind := ih (others next List.mem_cons_self)
      fun other member => others other (List.mem_cons_of_mem next member)
    rw [List.flatMap_cons, List.cons_append, splitSlashes_append_slash whole, behind]

/-- Pieces hold no slash. -/
theorem not_mem_of_mem_splitSlashes {text piece : List Char}
    (member : piece ∈ splitSlashes text) : '/' ∉ piece := by
  induction text generalizing piece with
  | nil =>
    rw [splitSlashes, List.mem_singleton] at member
    rw [member]
    exact List.not_mem_nil
  | cons c rest ih =>
    by_cases slash : c = '/'
    · rw [splitSlashes, if_pos slash] at member
      rcases List.mem_cons.mp member with here | later
      · rw [here]
        exact List.not_mem_nil
      · exact ih later
    · obtain ⟨first, others, split⟩ := List.exists_cons_of_ne_nil (splitSlashes_ne_nil rest)
      rw [splitSlashes_cons_of_ne slash split] at member
      rcases List.mem_cons.mp member with here | later
      · rw [here, List.mem_cons, not_or]
        exact ⟨fun same => slash same.symm, ih (split ▸ List.mem_cons_self)⟩
      · exact ih (split ▸ List.mem_cons_of_mem first later)

/-! ### Components -/

theorem isComponent_of_mem_components {pathname component : String}
    (member : component ∈ components pathname) : IsComponent component := by
  obtain ⟨isPiece, filled⟩ := List.mem_filter.mp member
  obtain ⟨piece, inPieces, rfl⟩ := List.mem_map.mp isPiece
  refine ⟨?_, ?_⟩
  · rintro empty
    rw [empty] at filled
    exact absurd filled (by decide)
  · rw [String.toList_ofList]
    exact not_mem_of_mem_splitSlashes inPieces

/-- Joined with slashes, texts are the pieces behind the first slash. None and a single empty one
give the same. -/
theorem pieces_joinSlashes {parts : List String} (whole : ∀ part ∈ parts, '/' ∉ part.toList) :
    pieces (joinSlashes parts) = "" :: if parts = [] then [""] else parts := by
  by_cases none : parts = []
  · subst none
    rfl
  · have spelled : (joinSlashes parts).toList
        = [] ++ (parts.map String.toList).flatMap ('/' :: ·) := by
      rw [joinSlashes, if_neg (by simpa using none), String.toList_join, List.flatMap_map,
        List.flatMap_map, List.nil_append]
      simp only [String.toList_append]
      rfl
    have whole : ∀ piece ∈ parts.map String.toList, '/' ∉ piece := by
      intro piece member
      obtain ⟨part, inParts, rfl⟩ := List.mem_map.mp member
      exact whole part inParts
    have back : (parts.map String.toList).map String.ofList = parts := by
      simp only [List.map_map, Function.comp_def, String.ofList_toList, List.map_id']
    rw [pieces, spelled, splitSlashes_append_flatMap List.not_mem_nil whole, List.map_cons, back,
      if_neg none]

/-- Joined with slashes, components are read back one by one. -/
theorem components_joinSlashes {parts : List String} (valid : ∀ part ∈ parts, IsComponent part) :
    components (joinSlashes parts) = parts := by
  have kept : ∀ part ∈ parts, !part.isEmpty := by
    intro part member
    simpa using (valid part member).1
  rw [components, pieces_joinSlashes fun part member => (valid part member).2,
    List.filter_cons_of_neg (by decide)]
  split
  · next none =>
    rw [none]
    rfl
  · exact List.filter_eq_self.mpr kept

/-- Joined with slashes, components can be told apart. -/
theorem joinSlashes_inj_iff {parts others : List String} (valid : ∀ part ∈ parts, IsComponent part)
    (validOthers : ∀ part ∈ others, IsComponent part) :
    joinSlashes parts = joinSlashes others ↔ parts = others := by
  constructor
  · intro same
    rw [← components_joinSlashes valid, same, components_joinSlashes validOthers]
  · exact congrArg joinSlashes

/-- A lone slash in front, and one between components. -/
theorem joinSlashes_eq (components : List String) :
    joinSlashes components = "/" ++ "/".intercalate components := by
  cases components with
  | nil => rfl
  | cons first rest =>
    rw [joinSlashes, if_neg (by simp)]
    induction rest generalizing first with
    | nil => simp
    | cons second rest ih =>
      rw [List.map_cons, String.join_cons, ih, String.intercalate_cons_cons]
      simp only [String.append_assoc]

/-- Joined with slashes, texts without a slash can be told apart, but for none and a single empty
one. -/
theorem joinSlashes_eq_iff {parts others : List String}
    (whole : ∀ part ∈ parts, '/' ∉ part.toList) (wholeOthers : ∀ part ∈ others, '/' ∉ part.toList) :
    joinSlashes parts = joinSlashes others
      ↔ parts = others ∨ parts = [] ∧ others = [""] ∨ parts = [""] ∧ others = [] := by
  constructor
  · intro same
    have split := congrArg pieces same
    rw [pieces_joinSlashes whole, pieces_joinSlashes wholeOthers] at split
    have behind := (List.cons.inj split).2
    by_cases none : parts = []
    · by_cases noneOther : others = []
      · exact Or.inl (none.trans noneOther.symm)
      · rw [if_pos none, if_neg noneOther] at behind
        exact Or.inr (Or.inl ⟨none, behind.symm⟩)
    · by_cases noneOther : others = []
      · rw [if_neg none, if_pos noneOther] at behind
        exact Or.inr (Or.inr ⟨behind, noneOther⟩)
      · rw [if_neg none, if_neg noneOther] at behind
        exact Or.inl behind
  · rintro (rfl | ⟨rfl, rfl⟩ | ⟨rfl, rfl⟩)
    · rfl
    · decide
    · decide

theorem decodeComponent_encodeComponent (text : String) :
    decodeComponent (encodeComponent text) = text := by
  rw [decodeComponent, encodeComponent, String.toList_ofList, Text.percentDecode_percentEncode,
    String.ofList_toList]

/-- A component is decoded to a text that is not empty. -/
theorem decodeComponent_eq_empty_iff {component : String} :
    decodeComponent component = "" ↔ component = "" := by
  rw [decodeComponent, String.ofList_eq_empty_iff, Text.percentDecode_eq_nil_iff,
    String.toList_eq_nil_iff]

theorem isComponent_encodeComponent {text : String} (filled : text ≠ "") :
    IsComponent (encodeComponent text) := by
  refine ⟨?_, ?_⟩
  · intro empty
    have given := decodeComponent_encodeComponent text
    rw [empty] at given
    exact filled given.symm
  · rw [encodeComponent, String.toList_ofList]
    exact Text.not_mem_percentEncode_slash text.toList

end Pathname

end Prerender
