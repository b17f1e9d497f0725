import Superstep.Proofs.Text.Cutting
import Superstep.Statement.Read

/-!
# What reading a statement gives

The kind of a line is told from what its front looks like, and the blanks and the semicolon that close
the line do not change it. A statement that was read has parts of certain shapes: names, and texts that
are trimmed and not empty.
-/

namespace Superstep

open Text

namespace StatementKind

theorem after?_eq_some_iff (word : String) (line rest : List Char) :
    after? word line = some rest ↔ line = word.toList ++ rest := by
  rw [after?, List.isPrefixOf?_eq_some_iff_append_eq]
  exact eq_comm

/-- A line starts with a word if the word stands at its front and no character of a name follows. -/
theorem startsWithWord_iff (word : String) (line : List Char) :
    startsWithWord word line = true ↔
      ∃ rest, line = word.toList ++ rest ∧ ∀ c, rest.head? = some c → isNameChar c = false := by
  rw [startsWithWord, Option.any_eq_true]
  constructor
  · rintro ⟨rest, found, apart⟩
    refine ⟨rest, (after?_eq_some_iff word line rest).mp found, ?_⟩
    intro c first
    simpa [first] using apart
  · rintro ⟨rest, split, apart⟩
    refine ⟨rest, (after?_eq_some_iff word line rest).mpr split, ?_⟩
    cases first : rest.head? with
    | none => rfl
    | some c => simpa using apart c first

/-- A line starts with a call if only blanks stand between the name and the parenthesis. -/
theorem startsWithCall_iff (name : String) (line : List Char) :
    startsWithCall name line = true ↔
      ∃ blanks rest, line = name.toList ++ (blanks ++ '(' :: rest) ∧ allBlank blanks = true := by
  rw [startsWithCall, Option.any_eq_true]
  constructor
  · rintro ⟨behind, found, opens⟩
    have first : (trimStart behind).head? = some '(' := by simpa using opens
    obtain ⟨rest, shape⟩ := List.head?_eq_some_iff.mp first
    refine ⟨behind.takeWhile isBlank, rest, ?_, ?_⟩
    · rw [← shape, trimStart, List.takeWhile_append_dropWhile]
      exact (after?_eq_some_iff name line behind).mp found
    · exact List.all_eq_true.mpr fun _ member => List.mem_takeWhile_imp member
  · rintro ⟨blanks, rest, split, blank⟩
    refine ⟨blanks ++ '(' :: rest, (after?_eq_some_iff name line _).mpr split, ?_⟩
    rw [trimStart, List.dropWhile_append_of_pos (List.all_eq_true.mp blank)]
    rfl

theorem startsWithWord_of_assign {line : List Char} (kind : ofTrimmed line = .assign) :
    startsWithWord "if" line = false := by
  cases starts : startsWithWord "if" line with
  | false => rfl
  | true =>
    rw [ofTrimmed, if_pos starts] at kind
    cases kind

/-- What stands between a statement and the end of its line: blanks and a semicolon. -/
def Closing (tail : List Char) : Prop := ∀ c ∈ tail, isBlank c = true ∨ c = ';'

namespace Closing

variable {tail : List Char} (closing : Closing tail)

include closing

theorem not_isNameChar (c : Char) (member : c ∈ tail) : isNameChar c = false := by
  rcases closing c member with blank | rfl
  · exact isNameChar_of_isBlank c blank
  · decide

theorem not_mem {mark : Char} (apart : isBlank mark = false ∧ mark ≠ ';') : mark ∉ tail := by
  intro member
  rcases closing mark member with blank | same
  · rw [apart.1] at blank
    cases blank
  · exact apart.2 same

/-- A name at the front of a line does not reach into its closing. -/
theorem cut_name {word line rest : List Char} (letters : ∀ c ∈ word, isNameChar c = true)
    (same : line ++ tail = word ++ rest) : ∃ more, line = word ++ more ∧ rest = more ++ tail := by
  rcases List.append_eq_append_iff.mp same with ⟨overlap, spelled, split⟩ | found
  · cases overlap with
    | nil => exact ⟨[], by rw [spelled, List.append_nil, List.append_nil], split.symm⟩
    | cons c overlap =>
      have letter := letters c (by simp [spelled])
      rw [closing.not_isNameChar c (by simp [split])] at letter
      cases letter
  · exact found

theorem startsWithWord_append (word : String) (line : List Char)
    (letters : ∀ c ∈ word.toList, isNameChar c = true) :
    startsWithWord word (line ++ tail) = startsWithWord word line := by
  rw [Bool.eq_iff_iff, startsWithWord_iff, startsWithWord_iff]
  constructor
  · rintro ⟨rest, split, apart⟩
    obtain ⟨more, rfl, rfl⟩ := closing.cut_name letters split
    refine ⟨more, rfl, ?_⟩
    intro c first
    exact apart c (by rw [List.head?_append, first]; rfl)
  · rintro ⟨rest, rfl, apart⟩
    refine ⟨rest ++ tail, List.append_assoc _ _ _, ?_⟩
    intro c first
    cases rest with
    | nil => exact closing.not_isNameChar c (List.mem_of_head? first)
    | cons d rest => exact apart c first

theorem startsWithCall_append (name : String) (line : List Char)
    (letters : ∀ c ∈ name.toList, isNameChar c = true) :
    startsWithCall name (line ++ tail) = startsWithCall name line := by
  have noOpen : '(' ∉ tail := closing.not_mem (by decide)
  rw [Bool.eq_iff_iff, startsWithCall_iff, startsWithCall_iff]
  constructor
  · rintro ⟨blanks, rest, split, blank⟩
    obtain ⟨more, rfl, behind⟩ := closing.cut_name letters split
    rcases List.append_eq_append_iff.mp behind.symm with ⟨overlap, _, inTail⟩ | ⟨inside, rfl, found⟩
    · exact absurd (by simp [inTail]) noOpen
    · cases inside with
      | nil =>
        rw [List.nil_append] at found
        exact absurd (by simp [← found]) noOpen
      | cons c inside =>
        obtain ⟨rfl, rfl⟩ := List.cons.inj found
        exact ⟨blanks, inside, rfl, blank⟩
  · rintro ⟨blanks, rest, rfl, blank⟩
    exact ⟨blanks, rest ++ tail, by simp, blank⟩

/-- The closing of a line does not change its kind. -/
theorem ofTrimmed_append (line : List Char) : ofTrimmed (line ++ tail) = ofTrimmed line := by
  have noBrace : '\x7d' ∉ tail := closing.not_mem (by decide)
  have brace : ((line ++ tail).head? == some '\x7d') = (line.head? == some '\x7d') := by
    cases line with
    | nil =>
      rw [Bool.eq_iff_iff, beq_iff_eq, beq_iff_eq]
      constructor
      · intro first
        exact absurd (List.mem_of_head? first) noBrace
      · intro impossible
        cases impossible
    | cons c line => rfl
  unfold ofTrimmed
  rw [closing.startsWithWord_append "if" line (List.all_eq_true.mp rfl),
    closing.startsWithCall_append "setVal" line (List.all_eq_true.mp rfl),
    closing.startsWithCall_append "send" line (List.all_eq_true.mp rfl), brace]

end Closing

end StatementKind

namespace Statement

/-- The body of a line is trimmed, and the rest of the line closes it. -/
theorem body_spec (source : List Char) :
    Trimmed (body source) ∧
      ∃ tail, trim source = body source ++ tail ∧ StatementKind.Closing tail := by
  have trimmed := trim_trimmed source
  unfold body
  dsimp only
  split
  · rename_i semicolon
    have split : trim source = (trim source).dropLast ++ [';'] :=
      (List.dropLast_append_getLast? ';' semicolon).symm
    obtain ⟨blanks, cut, blank⟩ := trimEnd_append_blanks (trim source).dropLast
    refine ⟨trimEnd_trimmed _ ?_, blanks ++ [';'], ?_, ?_⟩
    · intro c first
      apply trimmed.front c
      rw [split, List.head?_append, first]
      rfl
    · rw [← List.append_assoc, ← cut]
      exact split
    · intro c member
      rcases List.mem_append.mp member with inBlanks | last
      · exact .inl (List.all_eq_true.mp blank c inBlanks)
      · exact .inr (List.mem_singleton.mp last)
  · exact ⟨trimmed, [], (List.append_nil _).symm, by simp [StatementKind.Closing]⟩

theorem ofLine_eq (source : String) :
    StatementKind.ofLine source = StatementKind.ofTrimmed (body source.toList) := by
  obtain ⟨_, tail, split, closing⟩ := body_spec source.toList
  rw [StatementKind.ofLine, split, closing.ofTrimmed_append]

/-- The shapes that the parts of a statement have once it has been read. -/
def WellFormed : Statement → Prop
  | .beginIf condition => Expression.isIdentifier condition = true
  | .setValue value => value.toList ≠ [] ∧ Trimmed value.toList
  | .send direction content =>
    (direction.toList ≠ [] ∧ Trimmed direction.toList ∧ ',' ∉ direction.toList) ∧
      content.toList ≠ [] ∧ Trimmed content.toList
  | .endIf => True
  | .assign target expression =>
    (Expression.isIdentifier target = true ∧ target ≠ "if") ∧
      expression.toList ≠ [] ∧ Trimmed expression.toList

section Reading

variable {line : List Char} {statement : Statement}

theorem readBeginIf_ok (read : readBeginIf line = .ok statement) :
    statement.WellFormed ∧ statement.kind = .beginIf := by
  unfold readBeginIf at read
  split at read
  · cases read
  · split_ifs at read
    split at read
    · cases read
    · dsimp only at read
      split_ifs at read with braced identifier
      cases read
      exact ⟨identifier, rfl⟩

theorem arguments?_trimmed {inside : List Char} (found : arguments? line = some inside) :
    Trimmed inside := by
  unfold arguments? at found
  obtain ⟨⟨_, afterOpen⟩, _, rest⟩ := Option.bind_eq_some_iff.mp found
  obtain ⟨⟨content, after⟩, _, closed⟩ := Option.bind_eq_some_iff.mp rest
  dsimp only at closed
  split_ifs at closed
  cases closed
  exact trim_trimmed content

theorem readSetValue_ok (read : readSetValue line = .ok statement) :
    statement.WellFormed ∧ statement.kind = .setValue := by
  unfold readSetValue at read
  split at read
  · cases read
  · rename_i value found
    split_ifs at read with empty
    cases read
    refine ⟨?_, rfl⟩
    rw [WellFormed, String.toList_ofList]
    exact ⟨by simpa using empty, arguments?_trimmed found⟩

/-- A send that was read has a direction and a content, both without blanks around them. -/
theorem readSend_ok (read : readSend line = .ok statement) :
    statement.WellFormed ∧ statement.kind = .send := by
  unfold readSend at read
  split at read
  · cases read
  · split at read
    · cases read
    · rename_i inside found before after cut
      dsimp only at read
      split_ifs at read with empty
      cases read
      refine ⟨?_, rfl⟩
      rw [WellFormed, String.toList_ofList, String.toList_ofList]
      simp only [Bool.or_eq_true, List.isEmpty_iff, not_or] at empty
      obtain ⟨_, free⟩ := cutFirst_ok cut
      refine ⟨⟨empty.1, trim_trimmed before, ?_⟩, empty.2, trim_trimmed after⟩
      intro member
      obtain ⟨_, front, back, split, _⟩ := (trim_eq_iff before _).mp rfl
      exact free (by rw [split]; simp [member])

theorem readEndIf_ok (read : readEndIf line = .ok statement) :
    statement.WellFormed ∧ statement.kind = .endIf := by
  unfold readEndIf at read
  split_ifs at read
  cases read
  exact ⟨trivial, rfl⟩

/-- An assignment that was read has an identifier as its target, which is not `if`. -/
theorem readAssign_ok (trimmed : Trimmed line)
    (noIf : StatementKind.startsWithWord "if" line = false)
    (read : readAssign line = .ok statement) :
    statement.WellFormed ∧ statement.kind = .assign := by
  unfold readAssign at read
  split at read
  · cases read
  · rename_i before after cut
    dsimp only at read
    split_ifs at read with doubled identifier empty
    cases read
    refine ⟨?_, rfl⟩
    rw [WellFormed, String.toList_ofList]
    refine ⟨⟨by simpa using identifier, ?_⟩, by simpa using empty, trim_trimmed after⟩
    -- A target `if` would stand at the front of the line and make it a condition.
    intro isIf
    have spelled : trim before = ['i', 'f'] := by
      have same := congrArg String.toList isIf
      rwa [String.toList_ofList] at same
    obtain ⟨_, front, back, split, blankFront, blankBack⟩ := (trim_eq_iff before _).mp spelled
    obtain ⟨rfl, _⟩ := cutFirst_ok cut
    cases front with
    | cons c front =>
      have blank := List.all_eq_true.mp blankFront c List.mem_cons_self
      rw [trimmed.front c (by rw [split]; rfl)] at blank
      cases blank
    | nil =>
      have starts : StatementKind.startsWithWord "if" (before ++ '=' :: after) = true := by
        rw [StatementKind.startsWithWord_iff]
        refine ⟨back ++ '=' :: after, by simp [split], ?_⟩
        intro c first
        exact not_isNameChar_head blankBack (by decide) first
      rw [starts] at noIf
      cases noIf

/-- A statement that was read is well formed, and its kind is that of the line. -/
theorem readChars_ok {source : List Char} (read : readChars source = .ok statement) :
    statement.WellFormed ∧ statement.kind = StatementKind.ofTrimmed (body source) := by
  obtain ⟨trimmed, _⟩ := body_spec source
  unfold readChars at read
  dsimp only at read
  split at read <;> rename_i kind <;> rw [kind]
  · exact readBeginIf_ok read
  · exact readSetValue_ok read
  · exact readSend_ok read
  · exact readEndIf_ok read
  · exact readAssign_ok trimmed (StatementKind.startsWithWord_of_assign kind) read

end Reading

end Statement

end Superstep
