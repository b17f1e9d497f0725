import Superstep.Text.Search

/-!
# Words in texts

A word occurs in a text if it is a run of characters in it. A character that the word does not have
keeps what stands before it apart from what stands behind it, so a text is searched piece by piece.
-/

namespace Superstep.Text

theorem occurs_iff (word text : List Char) : occurs word text = true ↔ word <:+: text := by
  induction text with
  | nil => rw [occurs, List.isEmpty_iff, List.infix_nil]
  | cons c cs ih =>
    rw [occurs, Bool.or_eq_true, List.isPrefixOf_iff_prefix, ih, List.infix_cons_iff]

theorem mentions_iff (text word : String) :
    mentions text word = true ↔ word.toList <:+: text.toList :=
  occurs_iff _ _

section Apart

variable (word front back : List Char)

/-- A word cannot reach across a character that it does not have. -/
theorem infix_append_cons_iff (c : Char) (apart : c ∉ word) :
    word <:+: front ++ c :: back ↔ word <:+: front ∨ word <:+: back := by
  have behind : word <:+: c :: back ↔ word <:+: back := by
    rw [List.infix_cons_iff]
    constructor
    · rintro (start | later)
      · cases word with
        | nil => exact List.nil_infix
        | cons d word =>
          obtain ⟨rfl, _⟩ := List.cons_prefix_cons.mp start
          exact absurd List.mem_cons_self apart
      · exact later
    · exact .inr
  rw [List.infix_append_iff_ne_nil, behind]
  constructor
  · rintro (before | later | ⟨left, right, _, some, rfl, _, start⟩)
    · exact .inl before
    · exact .inr later
    · obtain ⟨d, rest, rfl⟩ := List.exists_cons_of_ne_nil some
      obtain ⟨rfl, _⟩ := List.cons_prefix_cons.mp start
      exact absurd (List.mem_append_right left List.mem_cons_self) apart
  · rintro (before | later)
    · exact .inl before
    · exact .inr (.inl later)

variable (some : word ≠ [])

include some

/-- Characters that a word does not have do not matter in front of a text. -/
theorem infix_append_left_iff (apart : ∀ c ∈ front, c ∉ word) :
    word <:+: front ++ back ↔ word <:+: back := by
  induction front with
  | nil => rfl
  | cons c front ih =>
    rw [List.forall_mem_cons] at apart
    have cut := infix_append_cons_iff word [] (front ++ back) c apart.1
    rw [List.nil_append, List.infix_nil, or_iff_right some] at cut
    rw [List.cons_append, cut, ih apart.2]

theorem infix_append_right_iff (apart : ∀ c ∈ back, c ∉ word) :
    word <:+: front ++ back ↔ word <:+: front := by
  cases back with
  | nil => rw [List.append_nil]
  | cons c back =>
    rw [List.forall_mem_cons] at apart
    have none := infix_append_left_iff word back [] some apart.2
    rw [List.append_nil, List.infix_nil] at none
    rw [infix_append_cons_iff word front back c apart.1, none, or_iff_left some]

end Apart

end Superstep.Text
