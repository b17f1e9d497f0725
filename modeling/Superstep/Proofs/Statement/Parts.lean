import Superstep.Proofs.ProgramLines
import Superstep.Proofs.Text.Replacing

/-!
# Where the parts of a statement stand

Reading a program only cuts texts, at marks and at blanks. So the texts that a statement is made of,
its names and its expressions, stand in its line as they are, and in the text of the program.
-/

namespace Superstep

namespace Text

theorem trim_isInfix (cs : List Char) : trim cs <:+: cs := by
  obtain ⟨_, front, back, split, _⟩ := (trim_eq_iff cs _).mp rfl
  refine ⟨front, back, ?_⟩
  rw [List.append_assoc]
  exact split.symm

theorem cutFirst_isInfix {mark : Char} {cs before after : List Char}
    (found : cutFirst mark cs = some (before, after)) : before <:+: cs ∧ after <:+: cs := by
  obtain ⟨rfl, _⟩ := cutFirst_ok found
  refine ⟨(List.prefix_append _ _).isInfix, ?_⟩
  exact (List.suffix_cons mark after).isInfix.trans (List.suffix_append _ _).isInfix

theorem cutLast_isInfix {mark : Char} {cs before after : List Char}
    (found : cutLast mark cs = some (before, after)) : before <:+: cs := by
  suffices split : cs = before ++ mark :: after by
    rw [split]
    exact (List.prefix_append _ _).isInfix
  induction cs generalizing before after with
  | nil => cases found
  | cons c cs ih =>
    unfold cutLast at found
    split at found
    · rename_i front behind later
      cases found
      rw [ih later, List.cons_append]
    · split_ifs at found with here
      cases found
      rw [here, List.nil_append]

theorem infix_of_mem_pieces (mark : Char) (cs piece : List Char) (member : piece ∈ pieces mark cs) :
    piece <:+: cs := by
  have inside := piece_infix_intercalate [mark] _ piece member
  rwa [intercalate_pieces] at inside

end Text

namespace Statement

open Text

def parts : Statement → List String
  | .beginIf condition => [condition]
  | .setValue value => [value]
  | .send direction content => [direction, content]
  | .endIf => []
  | .assign target expression => [target, expression]

section Reading

variable {line : List Char} {statement : Statement}

theorem readBeginIf_parts (read : readBeginIf line = .ok statement) :
    ∀ part ∈ statement.parts, part.toList <:+: line := by
  unfold readBeginIf at read
  split at read
  · cases read
  · rename_i before afterOpen opened
    split_ifs at read
    split at read
    · cases read
    · rename_i inside after closed
      dsimp only at read
      split_ifs at read
      cases read
      intro part member
      rw [List.mem_singleton.mp member, String.toList_ofList]
      exact (trim_isInfix inside).trans
        ((cutFirst_isInfix closed).1.trans (cutFirst_isInfix opened).2)

theorem arguments?_isInfix {inside : List Char} (found : arguments? line = some inside) :
    inside <:+: line := by
  unfold arguments? at found
  obtain ⟨⟨_, afterOpen⟩, opened, rest⟩ := Option.bind_eq_some_iff.mp found
  obtain ⟨⟨content, after⟩, closed, ends⟩ := Option.bind_eq_some_iff.mp rest
  dsimp only at ends
  split_ifs at ends
  cases ends
  exact (trim_isInfix content).trans ((cutLast_isInfix closed).trans (cutFirst_isInfix opened).2)

theorem readSetValue_parts (read : readSetValue line = .ok statement) :
    ∀ part ∈ statement.parts, part.toList <:+: line := by
  unfold readSetValue at read
  split at read
  · cases read
  · rename_i value found
    split_ifs at read
    cases read
    intro part member
    rw [List.mem_singleton.mp member, String.toList_ofList]
    exact arguments?_isInfix found

theorem readSend_parts (read : readSend line = .ok statement) :
    ∀ part ∈ statement.parts, part.toList <:+: line := by
  unfold readSend at read
  split at read
  · cases read
  · rename_i inside found
    split at read
    · cases read
    · rename_i before after cut
      dsimp only at read
      split_ifs at read
      cases read
      have within := arguments?_isInfix found
      rw [parts, List.forall_mem_cons, List.forall_mem_singleton, String.toList_ofList,
        String.toList_ofList]
      exact ⟨(trim_isInfix before).trans ((cutFirst_isInfix cut).1.trans within),
        (trim_isInfix after).trans ((cutFirst_isInfix cut).2.trans within)⟩

theorem readAssign_parts (read : readAssign line = .ok statement) :
    ∀ part ∈ statement.parts, part.toList <:+: line := by
  unfold readAssign at read
  split at read
  · cases read
  · rename_i before after cut
    dsimp only at read
    split_ifs at read
    cases read
    rw [parts, List.forall_mem_cons, List.forall_mem_singleton, String.toList_ofList,
      String.toList_ofList]
    exact ⟨(trim_isInfix before).trans (cutFirst_isInfix cut).1,
      (trim_isInfix after).trans (cutFirst_isInfix cut).2⟩

theorem body_isInfix (source : List Char) : body source <:+: source := by
  obtain ⟨_, tail, split, _⟩ := body_spec source
  have front : body source <:+: trim source := by
    rw [split]
    exact (List.prefix_append _ _).isInfix
  exact front.trans (trim_isInfix source)

/-- Every text that a statement is made of stands in its line as it is. -/
theorem readChars_parts {source : List Char} (read : readChars source = .ok statement) :
    ∀ part ∈ statement.parts, part.toList <:+: source := by
  suffices inBody : ∀ part ∈ statement.parts, part.toList <:+: body source from
    fun part member => (inBody part member).trans (body_isInfix source)
  unfold readChars at read
  dsimp only at read
  split at read
  · exact readBeginIf_parts read
  · exact readSetValue_parts read
  · exact readSend_parts read
  · unfold readEndIf at read
    split_ifs at read
    cases read
    intro part member
    cases member
  · exact readAssign_parts read

end Reading

end Statement

/-- The parts of all statements stand in the program that they are read from. -/
theorem Program.read_parts {source : String} {lines : List ProgramLine}
    (success : read source = .ok lines) :
    ∀ statement ∈ lines.map (·.statement), ∀ part ∈ statement.parts,
      part.toList <:+: source.toList := by
  intro statement member part inside
  have said := (read_say source _).mp ⟨lines, success, rfl⟩
  obtain ⟨line, held, spells⟩ := said.exists_line statement member
  have piece := (List.mem_filter.mp held).1
  exact (Statement.readChars_parts spells part inside).trans
    (Text.infix_of_mem_pieces '\n' source.toList line piece)

end Superstep
