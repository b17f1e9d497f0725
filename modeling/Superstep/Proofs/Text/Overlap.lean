import Mathlib.Data.List.Infix
import Superstep.Proofs.Text.Replacing

/-!
# Words that do not overlap

Two words that differ however they are laid over each other cannot share a character of a text. So an
occurrence of one is not touched when the other is replaced, nor does one come into being at the seam
of a substitute that it does not overlap with. Words of this kind are replaced in either order with the
same result, and none is left behind.
-/

namespace Superstep.Text

/-- The texts are the same as far as both go. -/
def Agree (one other : List Char) : Prop := one <+: other ∨ other <+: one

instance (one other : List Char) : Decidable (Agree one other) :=
  inferInstanceAs (Decidable (_ ∨ _))

/-- However the words are laid over each other, they differ somewhere. -/
structure NoOverlap (one other : List Char) : Prop where
  first : ∀ rest ∈ one.tails, rest ≠ [] → ¬ Agree rest other
  second : ∀ rest ∈ other.tails, rest ≠ [] → ¬ Agree rest one

instance (one other : List Char) : Decidable (NoOverlap one other) :=
  decidable_of_iff ((∀ rest ∈ one.tails, rest ≠ [] → ¬ Agree rest other) ∧
    ∀ rest ∈ other.tails, rest ≠ [] → ¬ Agree rest one)
    ⟨fun ⟨first, second⟩ => ⟨first, second⟩, fun clear => ⟨clear.first, clear.second⟩⟩

namespace NoOverlap

variable {word mark substitute : List Char}

theorem symm (clear : NoOverlap word mark) : NoOverlap mark word := ⟨clear.second, clear.first⟩

/-- No text goes on with the end of one word where it has the other. -/
theorem not_end (clear : NoOverlap word mark) {front back rest behind : List Char}
    (ends : word = front ++ back) (some : back ≠ []) : back ++ rest ≠ mark ++ behind := by
  intro same
  refine clear.first back ((List.mem_tails _ _).mpr ⟨front, ends.symm⟩) some ?_
  exact List.prefix_or_prefix_of_prefix ⟨rest, same⟩ (List.prefix_append mark behind)

/-- A word at the front of a text ends before a mark that stands in it. -/
theorem prefix_of_append (clear : NoOverlap word mark) {before behind : List Char}
    (found : word <+: before ++ (mark ++ behind)) : word <+: before := by
  obtain ⟨rest, split⟩ := found
  rcases List.append_eq_append_iff.mp split with ⟨inside, rfl, _⟩ | ⟨more, ends, reaches⟩
  · exact List.prefix_append word inside
  · cases more with
    | nil => rw [ends, List.append_nil]
    | cons c more => exact absurd reaches.symm (clear.not_end ends (List.cons_ne_nil _ _))

/-- A word that cannot overlap with a mark stands before it or behind it, never across. -/
theorem apart (clear : NoOverlap word mark) : Apart word mark := by
  intro before behind
  constructor
  · intro found
    rcases List.infix_append_iff_ne_nil.mp found with
      early | late | ⟨left, right, _, some, ends, _, more, reaches⟩
    · exact .inl early
    · rcases List.infix_append_iff_ne_nil.mp late with
        ⟨left, right, split⟩ | later | ⟨left, right, some, _, ends, ⟨front, split⟩, _⟩
      · rw [List.append_assoc] at split
        by_cases empty : word ++ right = []
        · rw [(List.append_eq_nil_iff.mp empty).1]
          exact .inl List.nil_infix
        · exact absurd (List.append_nil (word ++ right)) (clear.symm.not_end split.symm empty)
      · exact .inr later
      · exact absurd (by rw [← ends, List.append_nil]) (clear.symm.not_end split.symm some)
    · exact absurd reaches (clear.not_end ends some)
  · rintro (early | late)
    · exact early.trans (List.prefix_append _ _).isInfix
    · exact late.trans ((List.suffix_append _ _).isInfix.trans (List.suffix_append _ _).isInfix)

/-- A mark at the front of a text is kept when the word is replaced. -/
theorem replace_append (clear : NoOverlap word mark) (rest : List Char) :
    replace word substitute (mark ++ rest) = mark ++ replace word substitute rest := by
  have kept : ∀ back front, mark = front ++ back →
      replace word substitute (back ++ rest) = back ++ replace word substitute rest := by
    intro back
    induction back with
    | nil => exact fun _ _ => rfl
    | cons c back ih =>
      intro front split
      have elsewhere : ¬ word <+: c :: (back ++ rest) := by
        rintro ⟨behind, same⟩
        exact clear.symm.not_end split (List.cons_ne_nil _ _) same.symm
      rw [List.cons_append, replace_cons _ _ _ _ elsewhere, ih (front ++ [c]) (by simp [split]),
        List.cons_append]
  exact kept mark [] rfl

/-- A word that begins behind replacing began there before. -/
theorem prefix_of_replace (clear : NoOverlap word substitute) (some : mark ≠ [])
    (front text : List Char) (found : word <+: front ++ replace mark substitute text) :
    word <+: front ++ text := by
  obtain ⟨kept, nonempty, split, replaced⟩ := exists_pieces mark some text
  obtain ⟨piece, others, rfl⟩ := List.exists_cons_of_ne_nil nonempty
  rw [replaced] at found
  rw [split]
  cases others with
  | nil =>
    rw [List.intercalate_singleton] at found ⊢
    exact found
  | cons second others =>
    rw [List.intercalate_cons_cons, List.append_assoc, ← List.append_assoc] at found ⊢
    exact (clear.prefix_of_append found).trans (List.prefix_append _ _)

/-- No occurrence of a word is left when it has been replaced. -/
theorem not_infix_replace (clear : NoOverlap word substitute) (some : word ≠ [])
    (text : List Char) : ¬ word <:+: replace word substitute text := by
  induction text using replacing_induction word some with
  | empty =>
    rw [replace_nil, List.infix_nil]
    exact some
  | found text ih =>
    rw [replace_word_append word substitute some]
    intro inside
    rcases (clear.apart [] _).mp inside with empty | later
    · exact some (List.infix_nil.mp empty)
    · exact ih later
  | passed c text elsewhere ih =>
    rw [replace_cons word substitute c text elsewhere, List.infix_cons_iff]
    rintro (here | later)
    · exact elsewhere (clear.prefix_of_replace some [c] text here)
    · exact ih later

/-- Words that overlap neither with each other nor with their substitutes are replaced in either
order. -/
theorem replace_comm {first second one other : List Char} (clear : NoOverlap first second)
    (clearOne : NoOverlap second one) (clearOther : NoOverlap first other) (some : first ≠ [])
    (someSecond : second ≠ []) (text : List Char) :
    replace second other (replace first one text) =
      replace first one (replace second other text) := by
  by_cases hereFirst : first <+: text
  · obtain ⟨rest, split⟩ := hereFirst
    have shorter : rest.length < text.length := by simp [← split, List.length_pos_iff, some]
    rw [← split, replace_word_append first one some, clearOne.replace_append,
      clear.symm.replace_append, replace_word_append first one some,
      replace_comm clear clearOne clearOther some someSecond rest]
  · by_cases hereSecond : second <+: text
    · obtain ⟨rest, split⟩ := hereSecond
      have shorter : rest.length < text.length := by simp [← split, List.length_pos_iff, someSecond]
      rw [← split, replace_word_append second other someSecond, clearOther.replace_append,
        clear.replace_append, replace_word_append second other someSecond,
        replace_comm clear clearOne clearOther some someSecond rest]
    · cases text with
      | nil => simp only [replace_nil]
      | cons c text =>
        have laterFirst : ¬ first <+: c :: replace second other text := fun found =>
          hereFirst (clearOther.prefix_of_replace someSecond [c] text found)
        have laterSecond : ¬ second <+: c :: replace first one text := fun found =>
          hereSecond (clearOne.prefix_of_replace some [c] text found)
        rw [replace_cons first one c text hereFirst, replace_cons second other c _ laterSecond,
          replace_cons second other c text hereSecond, replace_cons first one c _ laterFirst,
          replace_comm clear clearOne clearOther some someSecond text]
termination_by text.length

end NoOverlap

/-- Where a word does not occur, nothing is replaced. -/
theorem replace_of_not_infix {word : List Char} (substitute text : List Char)
    (absent : ¬ word <:+: text) : replace word substitute text = text := by
  induction text with
  | nil => exact replace_nil word substitute
  | cons c text ih =>
    rw [List.infix_cons_iff, not_or] at absent
    rw [replace_cons word substitute c text absent.1, ih absent.2]

end Superstep.Text
