import Superstep.Proofs.Text.Occurrence

/-!
# Replacing a word

A text is cut into pieces at the occurrences of a word, and replacing the word puts the substitute
between the pieces. If the last character of the word stands nowhere else in it, then its occurrences
do not overlap, so all of them are replaced, and a text can be replaced part by part.
-/

namespace Superstep.Text

section Replacing

variable (word substitute : List Char)

theorem replaceFrom_skip (passed : Nat) (text : List Char) :
    replaceFrom word substitute passed text = replace word substitute (text.drop passed) := by
  induction text generalizing passed with
  | nil => rw [List.drop_nil, replace, replaceFrom, replaceFrom]
  | cons c text ih =>
    cases passed with
    | zero => rfl
    | succ passed => rw [replaceFrom, ih, List.drop_succ_cons]

theorem replace_word_append (some : word ≠ []) (text : List Char) :
    replace word substitute (word ++ text) = substitute ++ replace word substitute text := by
  cases word with
  | nil => exact absurd rfl some
  | cons c word =>
    have found : (c :: word).isPrefixOf (c :: (word ++ text)) = true :=
      List.isPrefixOf_iff_prefix.mpr (List.prefix_append (c :: word) text)
    rw [replace, List.cons_append, replaceFrom, if_pos found, replaceFrom_skip]
    simp

theorem replace_cons (c : Char) (text : List Char) (elsewhere : ¬ word <+: c :: text) :
    replace word substitute (c :: text) = c :: replace word substitute text := by
  rw [replace, replaceFrom, if_neg fun found => elsewhere (List.isPrefixOf_iff_prefix.mp found)]
  rfl

/-- The way in which a word is looked for: a text starts with it, or is passed over by one character. -/
theorem replacing_induction {motive : List Char → Prop} (some : word ≠ []) (empty : motive [])
    (found : ∀ text, motive text → motive (word ++ text))
    (passed : ∀ c text, ¬ word <+: c :: text → motive text → motive (c :: text))
    (text : List Char) : motive text := by
  by_cases here : word <+: text
  · obtain ⟨rest, split⟩ := here
    have shorter : rest.length < text.length := by
      have positive := List.length_pos_iff.mpr some
      rw [← split, List.length_append]
      omega
    rw [← split]
    exact found rest (replacing_induction some empty found passed rest)
  · cases text with
    | nil => exact empty
    | cons c text => exact passed c text here (replacing_induction some empty found passed text)
termination_by text.length

/-- The pieces between the words that are replaced. They do not depend on the substitute. -/
theorem exists_pieces (some : word ≠ []) (text : List Char) :
    ∃ kept : List (List Char), kept ≠ [] ∧ text = word.intercalate kept ∧
      ∀ substitute, replace word substitute text = substitute.intercalate kept := by
  induction text using replacing_induction word some with
  | empty => exact ⟨[[]], by simp, by simp, fun substitute => by simp [replace_nil]⟩
  | found text ih =>
    obtain ⟨kept, nonempty, split, replaced⟩ := ih
    obtain ⟨piece, others, rfl⟩ := List.exists_cons_of_ne_nil nonempty
    refine ⟨[] :: piece :: others, List.cons_ne_nil _ _, ?_, ?_⟩
    · rw [List.intercalate_cons_cons, ← split, List.nil_append]
    · intro substitute
      rw [replace_word_append word substitute some, replaced, List.intercalate_cons_cons,
        List.nil_append]
  | passed c text elsewhere ih =>
    obtain ⟨kept, nonempty, split, replaced⟩ := ih
    obtain ⟨piece, others, rfl⟩ := List.exists_cons_of_ne_nil nonempty
    have front : ∀ mark : List Char,
        mark.intercalate ((c :: piece) :: others) = c :: mark.intercalate (piece :: others) := by
      intro mark
      cases others with
      | nil => simp
      | cons second others => simp [List.intercalate_cons_cons]
    refine ⟨(c :: piece) :: others, List.cons_ne_nil _ _, ?_, ?_⟩
    · rw [front, ← split]
    · intro substitute
      rw [replace_cons word substitute c text elsewhere, replaced, front]

end Replacing

section Parts

variable (front : List Char) (last : Char) (substitute text tail : List Char)

/-- A word at the front of two texts stands in the first or reaches into the second. -/
theorem prefix_append_cases (found : front ++ [last] <+: text ++ tail) :
    front ++ [last] <+: text ∨
      ∃ more, text ++ more = front ∧ more ++ [last] <+: tail := by
  rcases List.prefix_or_prefix_of_prefix found (List.prefix_append text tail) with inside | reaches
  · exact .inl inside
  · obtain ⟨more, spelled⟩ := reaches
    rcases List.eq_nil_or_concat more with rfl | ⟨more, z, rfl⟩
    · rw [← spelled, List.append_nil]
      exact .inl (List.prefix_refl text)
    · rw [← spelled, List.prefix_append_right_inj, List.concat_eq_append] at found
      rw [List.concat_eq_append, ← List.append_assoc] at spelled
      obtain ⟨rfl, same⟩ := List.append_inj' spelled rfl
      rw [List.singleton_inj.mp same] at found
      exact .inr ⟨more, rfl, found⟩

/-- What has no end of a word in it is kept behind any text. -/
theorem replace_append_of_not_mem (apart : last ∉ tail) :
    replace (front ++ [last]) substitute (text ++ tail) =
      replace (front ++ [last]) substitute text ++ tail := by
  have some : front ++ [last] ≠ [] := by simp
  induction text using replacing_induction (front ++ [last]) some with
  | empty =>
    rw [List.nil_append, replace_nil, List.nil_append]
    induction tail with
    | nil => exact replace_nil _ _
    | cons c tail ih =>
      rw [replace_cons, ih fun member => apart (List.mem_cons_of_mem _ member)]
      exact fun found => apart (found.subset (by simp))
  | found text ih =>
    rw [List.append_assoc, replace_word_append _ _ some, replace_word_append _ _ some, ih,
      List.append_assoc]
  | passed c text elsewhere ih =>
    rw [List.cons_append, replace_cons _ _ _ _ elsewhere, List.cons_append, ← ih]
    refine replace_cons _ _ _ _ ?_
    intro found
    rcases prefix_append_cases front last (c :: text) tail found with inside | ⟨more, _, reaches⟩
    · exact elsewhere inside
    · exact apart (reaches.subset (by simp))

/-- Occurrences of a word do not overlap if its last character stands nowhere else in it. So what
stands before one of them and what stands behind it are replaced apart. -/
theorem replace_append_word (once : last ∉ front) :
    replace (front ++ [last]) substitute (text ++ (front ++ [last] ++ tail)) =
      replace (front ++ [last]) substitute text ++
        (substitute ++ replace (front ++ [last]) substitute tail) := by
  have some : front ++ [last] ≠ [] := by simp
  induction text using replacing_induction (front ++ [last]) some with
  | empty => rw [List.nil_append, replace_nil, List.nil_append, replace_word_append _ _ some]
  | found text ih =>
    rw [List.append_assoc, replace_word_append _ _ some, replace_word_append _ _ some, ih,
      List.append_assoc]
  | passed c text elsewhere ih =>
    rw [List.cons_append, replace_cons _ _ _ _ elsewhere, List.cons_append, ← ih]
    refine replace_cons _ _ _ _ ?_
    intro found
    rcases prefix_append_cases front last (c :: text) _ found with inside | ⟨more, spelled, reaches⟩
    · exact elsewhere inside
    -- The end of the word would stand further to the front in the word itself.
    · have shorter : (more ++ [last]).length ≤ front.length := by
        rw [← spelled]
        simp
      have within : more ++ [last] <+: front := by
        refine List.prefix_of_prefix_length_le reaches ?_ shorter
        rw [List.append_assoc]
        exact List.prefix_append _ _
      exact once (within.subset (by simp))

end Parts

theorem piece_infix_intercalate (mark : List Char) (kept : List (List Char)) :
    ∀ piece ∈ kept, piece <:+: mark.intercalate kept := by
  induction kept with
  | nil => simp
  | cons first others ih =>
    intro piece member
    cases others with
    | nil =>
      obtain rfl := List.mem_singleton.mp member
      simp
    | cons second others =>
      rw [List.intercalate_cons_cons]
      rcases List.mem_cons.mp member with rfl | later
      · exact (List.prefix_append _ _).isInfix.trans (List.prefix_append _ _).isInfix
      · exact (ih piece later).trans (List.suffix_append _ _).isInfix

/-- Wherever a mark stands, no occurrence of a word touches it. -/
def Apart (word mark : List Char) : Prop :=
  ∀ before behind, word <:+: before ++ (mark ++ behind) ↔ word <:+: before ∨ word <:+: behind

namespace Apart

variable {word mark substitute : List Char}

/-- A word that keeps apart from the mark stands within one of the pieces. -/
theorem infix_intercalate_iff (apart : Apart word mark) (kept : List (List Char))
    (nonempty : kept ≠ []) :
    word <:+: mark.intercalate kept ↔ ∃ piece ∈ kept, word <:+: piece := by
  induction kept with
  | nil => exact absurd rfl nonempty
  | cons piece others ih =>
    cases others with
    | nil => simp
    | cons second others =>
      rw [List.intercalate_cons_cons, List.append_assoc, apart, ih (List.cons_ne_nil _ _)]
      simp only [List.mem_cons, exists_eq_or_imp]

/-- A word that touches no mark is still there when the marks are replaced. -/
theorem infix_replace (apart : Apart word mark) (some : mark ≠ []) {text : List Char}
    (found : word <:+: text) : word <:+: replace mark substitute text := by
  obtain ⟨kept, nonempty, rfl, replaced⟩ := exists_pieces mark some text
  obtain ⟨piece, member, inside⟩ := (apart.infix_intercalate_iff kept nonempty).mp found
  rw [replaced]
  exact inside.trans (piece_infix_intercalate substitute kept piece member)

/-- A word that touches neither what is replaced nor what replaces it occurs as before. -/
theorem infix_replace_iff (apart : Apart word mark) (apartNew : Apart word substitute)
    (some : mark ≠ []) (text : List Char) :
    word <:+: replace mark substitute text ↔ word <:+: text := by
  obtain ⟨kept, nonempty, split, replaced⟩ := exists_pieces mark some text
  rw [replaced, apartNew.infix_intercalate_iff kept nonempty, split,
    apart.infix_intercalate_iff kept nonempty]

end Apart

section Filling

variable {word field : List Char} (context : List Char)

/-- A word that stands in a text behind replacing stood there before, or touches the front of a
substitute. Only the first part of a substitute counts if the word does not touch the rest. -/
theorem infix_replace_cases (apart : Apart word field) (mark : List Char) (some : mark ≠ [])
    (text : List Char) (found : word <:+: replace mark (context ++ field) text) :
    word <:+: text ∨
      ∃ before behind, text = before ++ (mark ++ behind) ∧ word <:+: before ++ context := by
  obtain ⟨kept, nonempty, rfl, replaced⟩ := exists_pieces mark some text
  rw [replaced] at found
  clear replaced
  induction kept with
  | nil => exact absurd rfl nonempty
  | cons piece others ih =>
    cases others with
    | nil =>
      rw [List.intercalate_singleton] at found
      rw [List.intercalate_singleton]
      exact .inl found
    | cons second others =>
      rw [List.intercalate_cons_cons, List.append_assoc, List.append_assoc, ← List.append_assoc,
        apart] at found
      rw [List.intercalate_cons_cons, List.append_assoc]
      rcases found with here | later
      · exact .inr ⟨piece, _, rfl, here⟩
      · rcases ih (List.cons_ne_nil _ _) later with plain | ⟨before, behind, split, touches⟩
        · exact .inl (plain.trans
            ((List.suffix_append _ _).isInfix.trans (List.suffix_append _ _).isInfix))
        · refine .inr ⟨piece ++ (mark ++ before), behind, ?_, ?_⟩
          · rw [split]
            simp only [List.append_assoc]
          · rw [List.append_assoc, List.append_assoc]
            exact touches.trans
              ((List.suffix_append _ _).isInfix.trans (List.suffix_append _ _).isInfix)

/-- A word that stands partly in front of a mark and goes on in its substitute comes into being. -/
theorem infix_replace_of_touching (front : List Char) (last : Char) (before behind : List Char)
    (once : last ∉ front) (absent : last ∉ word) (new : ¬ word <:+: before)
    (touches : word <:+: before ++ context) :
    word <:+: replace (front ++ [last]) (context ++ field)
      (before ++ (front ++ [last] ++ behind)) := by
  rw [replace_append_word front last _ _ _ once, List.append_assoc context]
  rcases List.infix_append_iff_ne_nil.mp touches with old | inContext |
    ⟨left, right, _, _, rfl, ⟨earlier, rfl⟩, ⟨later, rfl⟩⟩
  · exact absurd old new
  · exact inContext.trans
      ((List.prefix_append _ _).isInfix.trans (List.suffix_append _ _).isInfix)
  · have kept : last ∉ left := fun member => absent (List.mem_append_left right member)
    rw [replace_append_of_not_mem front last _ _ _ kept]
    refine ⟨replace (front ++ [last]) (right ++ later ++ field) earlier,
      later ++ (field ++ replace (front ++ [last]) (right ++ later ++ field) behind), ?_⟩
    simp only [List.append_assoc]

end Filling

end Superstep.Text
