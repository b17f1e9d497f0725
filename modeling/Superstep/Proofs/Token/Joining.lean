import Superstep.Proofs.Text.Cutting
import Superstep.Proofs.Token.LongestMatch

/-!
# Joining texts at a gap

A lexeme that reaches over a gap is quoted, and a quoted lexeme ends at the first quote. So a gap
keeps the lexemes before it apart from those behind it, and texts that are joined with a space are
cut up one after the other. No lexeme starts or ends with a blank, so a text is cut up the same
without the blanks around it.
-/

namespace Superstep

theorem Text.allBlank_of_gap (gap : List Char) (blank : gap.all Scan.isGap = true) :
    allBlank gap = true := by
  refine List.all_eq_true.mpr ?_
  intro c member
  have either : c = ' ' ∨ c = '\t' := by
    simpa [Scan.isGap] using List.all_eq_true.mp blank c member
  rcases either with rfl | rfl <;> decide

namespace Token

/-- A lexeme has no blank at either end. -/
theorem WellFormed.text_trimmed {token : Token} (formed : token.WellFormed) :
    Text.Trimmed token.text.toList := by
  have name : ∀ word, Text.isName word = true → Text.Trimmed word ∧ word ≠ [] := by
    intro word held
    refine ⟨Text.trimmed_of_isNameChar word (Text.isNameChar_of_isName word held), ?_⟩
    rintro rfl
    cases held
  have named : token.family = .named → Text.Trimmed token.text.toList := by
    intro family
    obtain ⟨word, suffix, spelled, held, shape⟩ := formed.named_text family
    obtain ⟨trimmed, some⟩ := name word held
    rw [spelled]
    rcases shape with rfl | ⟨field, isField, rfl⟩ | rfl
    · rwa [List.append_nil]
    · exact .joined ['.'] trimmed (name field isField).1 some (name field isField).2
    · exact .joined ['('] trimmed (.singleton ')' rfl) some (by decide)
  cases token with
  | qualified | placeholder | keyword | ident => exact named rfl
  | number digits =>
    refine Text.trimmed_of_not_isBlank _ ?_
    intro c member
    rcases Text.Numeral.chars formed c member with digit | mark
    · refine Text.isBlank_of_isNameChar c ?_
      simp [Text.isNameChar, Char.isAlphanum, digit]
    · have marks : ['.', 'e', 'E', '+', '-'].all (!Text.isBlank ·) = true := by decide
      simpa using List.all_eq_true.mp marks c mark
  | quoted content =>
    have enclosed := Text.Trimmed.enclosed '\'' '\'' content.toList (by decide) (by decide)
    simpa [text] using enclosed
  | operator op =>
    refine Text.trimmed_of_not_isBlank _ ?_
    have solid : op.text.toList.all (!Text.isBlank ·) = true := by cases op <;> decide
    intro c member
    simpa using List.all_eq_true.mp solid c member
  | openParen | closeParen | comma => exact .singleton _ rfl

/-- The longest lexeme stays so when the source ends earlier behind it. -/
theorem Longest.truncated {token : Token} {source rest more : List Char}
    (longest : token.Longest source (rest ++ more)) :
    token.Longest (token.text.toList ++ rest) rest := by
  refine ⟨longest.formed, rfl, ?_⟩
  intro other formed front
  refine longest.longest other formed (front.trans ?_)
  rw [longest.split, ← List.append_assoc]
  exact List.prefix_append _ _

/-- A quoted lexeme ends at the first quote, so no other goes on behind it. -/
theorem WellFormed.quoted_of_prefix {token other : Token} (formed : token.WellFormed)
    (otherFormed : other.WellFormed) (quoted : other.family = .quoted)
    (inside : token.text.toList <+: other.text.toList) :
    other.text.toList.length ≤ token.text.toList.length := by
  obtain ⟨c, cs, spelled, family⟩ := formed.head
  obtain ⟨d, ds, otherSpelled, otherFamily⟩ := otherFormed.head
  have same : c = d := by
    rw [spelled, otherSpelled] at inside
    exact (List.cons_prefix_cons.mp inside).1
  rw [same, otherFamily, quoted, Option.some.injEq] at family
  cases token with
  | quoted content =>
    cases other with
    | quoted longer =>
      have within : content.toList ++ ['\''] <+: longer.toList ++ ['\''] := by
        simpa [text] using inside
      rw [text, text]
      by_contra exceeds
      have closes : content.toList ++ ['\''] <+: longer.toList := by
        apply List.prefix_of_prefix_length_le within (List.prefix_append _ _)
        simp at exceeds ⊢
        omega
      have free : '\'' ∉ longer.toList := otherFormed
      exact free (closes.subset (by simp))
    | _ => cases quoted
  | _ => cases family

/-- What follows a gap behind a source cannot make its longest lexeme longer. -/
theorem Longest.append_gap {token : Token} {source rest : List Char}
    (longest : token.Longest source rest) (g : Char) (gap : Scan.isGap g = true)
    (more : List Char) : token.Longest (source ++ g :: more) (rest ++ g :: more) := by
  refine ⟨longest.formed, by rw [longest.split, List.append_assoc], ?_⟩
  intro other formed front
  by_cases short : other.text.toList.length ≤ source.length
  · apply longest.longest other formed
    exact List.prefix_of_prefix_length_le front (List.prefix_append _ _) short
  -- Otherwise the other lexeme takes in the gap, so both are quoted, and the quote that ends the
  -- token stands inside of the other.
  · have reaches : source ++ [g] <+: other.text.toList := by
      apply List.prefix_of_prefix_length_le _ front
      · rw [List.length_append, List.length_singleton]
        omega
      · exact ⟨more, by rw [List.append_assoc, List.singleton_append]⟩
    have quoted : other.family = .quoted :=
      formed.quoted_of_gap g (reaches.subset (by simp)) gap
    have inside : token.text.toList <+: other.text.toList := by
      refine List.IsPrefix.trans ?_ reaches
      exact ⟨rest ++ [g], by rw [longest.split, List.append_assoc]⟩
    exact longest.formed.quoted_of_prefix formed quoted inside

end Token

namespace Munch

theorem alone (token : Token) (formed : token.WellFormed) : Munch token.text.toList [token] := by
  have longest : token.Longest token.text.toList [] :=
    ⟨formed, (List.append_nil _).symm, fun _ _ front => front.length_le⟩
  exact .take [] _ [] token [] rfl longest (.done [] rfl)

theorem formed {source : List Char} {tokens : List Token} (munch : Munch source tokens) :
    ∀ token ∈ tokens, token.WellFormed := by
  induction munch with
  | done => simp
  | take gap source rest token tokens blank longest later ih =>
    intro other member
    rcases List.mem_cons.mp member with rfl | behind
    · exact longest.formed
    · exact ih other behind

theorem gap_append {source : List Char} {tokens : List Token} (gap : List Char)
    (blank : gap.all Scan.isGap = true) (munch : Munch source tokens) :
    Munch (gap ++ source) tokens := by
  have blanks : ∀ more : List Char, more.all Scan.isGap = true →
      (gap ++ more).all Scan.isGap = true := by
    intro more blankMore
    rw [List.all_append, blank, blankMore]
    rfl
  cases munch with
  | done more blankMore => exact .done _ (blanks source blankMore)
  | take more source rest token tokens blankMore longest later =>
    rw [← List.append_assoc]
    exact .take _ source rest token tokens (blanks more blankMore) longest later

/-- Texts that are joined with a space are cut up one after the other. -/
theorem append {first second : List Char} {before behind : List Token}
    (munch : Munch first before) (later : Munch second behind) :
    Munch (first ++ ' ' :: second) (before ++ behind) := by
  induction munch with
  | done gap blank =>
    have blanks : (gap ++ [' ']).all Scan.isGap = true := by
      rw [List.all_append, blank]
      rfl
    have joined := gap_append _ blanks later
    rwa [List.append_assoc, List.singleton_append] at joined
  | take gap source rest token tokens blank longest _ ih =>
    rw [List.append_assoc, List.cons_append]
    exact .take gap _ _ token _ blank (longest.append_gap ' ' rfl second) ih

/-- A text is cut up the same without the gaps around it. -/
theorem core {source : List Char} {tokens : List Token} (munch : Munch source tokens)
    (some : tokens ≠ []) :
    ∃ front core back, source = front ++ (core ++ back) ∧ front.all Scan.isGap = true ∧
      back.all Scan.isGap = true ∧ core ≠ [] ∧ Text.Trimmed core ∧ Munch core tokens := by
  induction munch with
  | done => exact absurd rfl some
  | take gap source rest token tokens blank longest later ih =>
    obtain ⟨c, cs, spelled, _⟩ := longest.formed.head
    have text : token.text.toList ≠ [] := by simp [spelled]
    have trimmed := longest.formed.text_trimmed
    cases tokens with
    | nil =>
      cases later with
      | done _ blankRest =>
        refine ⟨gap, token.text.toList, rest, ?_, blank, blankRest, text, trimmed,
          alone token longest.formed⟩
        rw [longest.split]
    | cons second others =>
      obtain ⟨front, core, back, rfl, blankFront, blankBack, inside, ends, munched⟩ :=
        ih (List.cons_ne_nil _ _)
      refine ⟨gap, token.text.toList ++ (front ++ core), back, ?_, blank, blankBack, ?_, ?_, ?_⟩
      · rw [longest.split]
        simp only [List.append_assoc]
      · simp [text]
      · exact .joined front trimmed ends text inside
      · rw [← List.append_assoc] at longest
        exact .take [] _ _ token _ rfl longest.truncated (gap_append front blankFront munched)

theorem trim {source : List Char} {tokens : List Token} (munch : Munch source tokens)
    (some : tokens ≠ []) : Text.trim source ≠ [] ∧ Munch (Text.trim source) tokens := by
  obtain ⟨front, core, back, rfl, blankFront, blankBack, inside, trimmed, munched⟩ :=
    munch.core some
  have whole := Text.trim_between front core back trimmed (Text.allBlank_of_gap front blankFront)
    (Text.allBlank_of_gap back blankBack)
  rw [whole]
  exact ⟨inside, munched⟩

end Munch

end Superstep
