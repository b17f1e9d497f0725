import Superstep.Proofs.Outcome
import Superstep.Proofs.Statement.Reading
import Superstep.Proofs.Token.Readers

/-!
# Printing statements

Every statement is printed in one way, closed by a semicolon. What the parts of a well-formed statement
hold besides does not matter: the reader looks for the first mark or the last one, and printing puts
its own marks there. So reading a printed statement gives it back, and every statement that was read is
well formed.
-/

namespace Superstep

open Text

namespace Statement

/-- How a statement is written, without the semicolon that closes it. -/
def text : Statement → String
  | .beginIf condition => "if (" ++ condition ++ ") \x7b"
  | .setValue value => "setVal(" ++ value ++ ")"
  | .send direction content => "send(" ++ direction ++ ", " ++ content ++ ")"
  | .endIf => "\x7d"
  | .assign target expression => target ++ " = " ++ expression

def print (statement : Statement) : String := statement.text ++ ";"

theorem body_closed (line : List Char) (trimmed : Trimmed line) : body (line ++ [';']) = line := by
  have closed : Trimmed (line ++ [';']) := by
    cases line with
    | nil => exact ⟨by simp; decide, by simp; decide⟩
    | cons c line => exact .enclosed c ';' line (trimmed.front c rfl) (by decide)
  unfold body
  dsimp only
  rw [closed.trim_eq, List.getLast?_concat, if_pos rfl, List.dropLast_concat, trimmed.trimEnd_eq]

theorem isNameChar_of_isIdentifier {name : String} (held : Expression.isIdentifier name = true) :
    ∀ c ∈ name.toList, isNameChar c = true :=
  isNameChar_of_isName _ (Scan.word_of_identifier name held).1

theorem toList_ne_nil_of_isIdentifier {name : String}
    (held : Expression.isIdentifier name = true) : name.toList ≠ [] := by
  intro empty
  have isName := (Scan.word_of_identifier name held).1
  rw [empty] at isName
  cases isName

theorem toList_text_beginIf (condition : String) : (beginIf condition).text.toList =
    'i' :: 'f' :: ' ' :: '(' :: (condition.toList ++ [')', ' ', '\x7b']) := by
  simp [text]

theorem toList_text_setValue (value : String) : (setValue value).text.toList =
    's' :: 'e' :: 't' :: 'V' :: 'a' :: 'l' :: '(' :: (value.toList ++ [')']) := by
  simp [text]

theorem toList_text_send (direction content : String) : (send direction content).text.toList =
    's' :: 'e' :: 'n' :: 'd' :: '(' ::
      ((direction.toList ++ ',' :: ' ' :: content.toList) ++ [')']) := by
  simp [text]

theorem toList_text_assign (target expression : String) : (assign target expression).text.toList =
    target.toList ++ ' ' :: '=' :: ' ' :: expression.toList := by
  simp [text]

/-- A target and an equals sign are the front of no other statement, unless the target is `if`. -/
theorem ofTrimmed_assign (target expression : String)
    (identifier : Expression.isIdentifier target = true) (noIf : target ≠ "if") :
    StatementKind.ofTrimmed (assign target expression).text.toList = .assign := by
  have letters := isNameChar_of_isIdentifier identifier
  have nonempty := toList_ne_nil_of_isIdentifier identifier
  rw [toList_text_assign]
  have noCondition : ¬ StatementKind.startsWithWord "if"
      (target.toList ++ ' ' :: '=' :: ' ' :: expression.toList) = true := by
    rw [StatementKind.startsWithWord_iff]
    rintro ⟨rest, same, apart⟩
    have isIf := (run_unique same letters (List.all_eq_true.mp rfl) (by simp; decide) apart).1
    exact noIf (String.toList_inj.mp isIf)
  have noCall : ∀ name : String, (∀ c ∈ name.toList, isNameChar c = true) →
      ¬ StatementKind.startsWithCall name
        (target.toList ++ ' ' :: '=' :: ' ' :: expression.toList) = true := by
    intro name inName
    rw [StatementKind.startsWithCall_iff]
    rintro ⟨blanks, rest, same, blank⟩
    have stops : ∀ c, (blanks ++ '(' :: rest).head? = some c → isNameChar c = false :=
      fun c first => not_isNameChar_head blank (by decide) first
    have behind := (run_unique same letters inName (by simp; decide) stops).2
    -- Behind the blanks stands an equals sign on the one side and a parenthesis on the other.
    have marks := congrArg trimStart behind
    rw [trimStart, trimStart, List.dropWhile_append_of_pos (List.all_eq_true.mp blank)] at marks
    exact absurd (List.cons.inj marks).1 (by decide)
  have noBrace : ¬ ((target.toList ++ ' ' :: '=' :: ' ' :: expression.toList).head? ==
      some '\x7d') = true := by
    rw [List.head?_append_of_ne_nil _ nonempty, beq_iff_eq]
    intro first
    exact absurd (letters _ (List.mem_of_head? first)) (by decide)
  rw [StatementKind.ofTrimmed, if_neg noCondition,
    if_neg (noCall "setVal" (List.all_eq_true.mp rfl)),
    if_neg (noCall "send" (List.all_eq_true.mp rfl)), if_neg noBrace]

theorem arguments?_call (name inside : List Char) (noOpen : '(' ∉ name) :
    arguments? (name ++ '(' :: (inside ++ [')'])) = some (trim inside) := by
  rw [arguments?, cutFirst_append name _ noOpen]
  change (cutLast ')' (inside ++ [')'])).bind _ = _
  rw [cutLast_append inside [] List.not_mem_nil]
  rfl

/-- An `if` is read back as it was printed. -/
theorem readBeginIf_text (condition : String)
    (identifier : Expression.isIdentifier condition = true) :
    readBeginIf (beginIf condition).text.toList = .ok (.beginIf condition) := by
  have letters := isNameChar_of_isIdentifier identifier
  have noClose : ')' ∉ condition.toList := fun member => absurd (letters _ member) (by decide)
  have opened : cutFirst '(' (beginIf condition).text.toList =
      some (['i', 'f', ' '], condition.toList ++ [')', ' ', '\x7b']) := by
    rw [toList_text_beginIf]
    exact cutFirst_append ['i', 'f', ' '] _ (by decide)
  have closed : cutFirst ')' (condition.toList ++ [')', ' ', '\x7b']) =
      some (condition.toList, [' ', '\x7b']) := cutFirst_append _ _ noClose
  have brace : trim [' ', '\x7b'] = ['\x7b'] := by decide
  have blank : allBlank [' '] = true := by decide
  have inside : String.ofList (trim condition.toList) = condition := by
    rw [(trimmed_of_isNameChar _ letters).trim_eq, String.ofList_toList]
  simp [readBeginIf, opened, closed, brace, blank, inside, identifier]

theorem readSetValue_text (value : String) (nonempty : value.toList ≠ [])
    (trimmed : Trimmed value.toList) :
    readSetValue (setValue value).text.toList = .ok (.setValue value) := by
  have called : arguments? (setValue value).text.toList = some value.toList := by
    have found := arguments?_call ['s', 'e', 't', 'V', 'a', 'l'] value.toList (by decide)
    rw [trimmed.trim_eq] at found
    rw [toList_text_setValue]
    exact found
  simp [readSetValue, called, nonempty]

/-- The direction has no comma, so the first comma parts it from the content. -/
theorem readSend_text (direction content : String)
    (direct : direction.toList ≠ [] ∧ Trimmed direction.toList ∧ ',' ∉ direction.toList)
    (nonempty : content.toList ≠ []) (trimmed : Trimmed content.toList) :
    readSend (send direction content).text.toList = .ok (.send direction content) := by
  obtain ⟨someDirection, trimmedDirection, noComma⟩ := direct
  have whole : Trimmed (direction.toList ++ ',' :: ' ' :: content.toList) :=
    trimmedDirection.joined [',', ' '] trimmed someDirection nonempty
  have called : arguments? (send direction content).text.toList =
      some (direction.toList ++ ',' :: ' ' :: content.toList) := by
    have found := arguments?_call ['s', 'e', 'n', 'd']
      (direction.toList ++ ',' :: ' ' :: content.toList) (by decide)
    rw [whole.trim_eq] at found
    rw [toList_text_send]
    exact found
  have parted : cutFirst ',' (direction.toList ++ ',' :: ' ' :: content.toList) =
      some (direction.toList, ' ' :: content.toList) := cutFirst_append _ _ noComma
  simp [readSend, called, parted, trimmed.trim_space_cons, trimmedDirection.trim_eq, someDirection,
    nonempty]

/-- The target has no equals sign, so the first one parts it from the expression. -/
theorem readAssign_text (target expression : String)
    (identifier : Expression.isIdentifier target = true) (nonempty : expression.toList ≠ [])
    (trimmed : Trimmed expression.toList) :
    readAssign (assign target expression).text.toList = .ok (.assign target expression) := by
  have letters := isNameChar_of_isIdentifier identifier
  have noEqual : '=' ∉ target.toList ++ [' '] := by
    intro member
    rcases List.mem_append.mp member with inTarget | inGap
    · exact absurd (letters _ inTarget) (by decide)
    · exact absurd inGap (by decide)
  have parted : cutFirst '=' (assign target expression).text.toList =
      some (target.toList ++ [' '], ' ' :: expression.toList) := by
    rw [toList_text_assign]
    have cut := cutFirst_append (target.toList ++ [' ']) (' ' :: expression.toList) noEqual
    rwa [List.append_assoc] at cut
  have before : String.ofList (trim (target.toList ++ [' '])) = target := by
    have between := trim_between [] target.toList [' '] (trimmed_of_isNameChar _ letters) rfl
      (by decide)
    rw [List.nil_append] at between
    rw [between, String.ofList_toList]
  simp [readAssign, parted, before, trimmed.trim_space_cons, identifier, nonempty]

section Formed

variable {statement : Statement} (formed : statement.WellFormed)

include formed

theorem text_trimmed : Trimmed statement.text.toList := by
  cases statement with
  | beginIf condition =>
    rw [toList_text_beginIf]
    have enclosed := Trimmed.enclosed 'i' '\x7b'
      ('f' :: ' ' :: '(' :: (condition.toList ++ [')', ' '])) (by decide) (by decide)
    simpa using enclosed
  | setValue value =>
    rw [toList_text_setValue]
    exact .enclosed 's' ')' ('e' :: 't' :: 'V' :: 'a' :: 'l' :: '(' :: value.toList) (by decide)
      (by decide)
  | send direction content =>
    rw [toList_text_send]
    exact .enclosed 's' ')' ('e' :: 'n' :: 'd' :: '(' :: _) (by decide) (by decide)
  | endIf => exact ⟨by simp [text]; decide, by simp [text]; decide⟩
  | assign target expression =>
    obtain ⟨⟨identifier, _⟩, nonempty, trimmed⟩ := formed
    rw [toList_text_assign]
    exact (trimmed_of_isNameChar _ (isNameChar_of_isIdentifier identifier)).joined [' ', '=', ' ']
      trimmed (toList_ne_nil_of_isIdentifier identifier) nonempty

/-- The kind of a printed statement can be told from how its line starts. -/
theorem ofTrimmed_text : StatementKind.ofTrimmed statement.text.toList = statement.kind := by
  cases statement with
  | beginIf condition =>
    rw [toList_text_beginIf]
    rfl
  | setValue value =>
    rw [toList_text_setValue]
    rfl
  | send direction content =>
    rw [toList_text_send]
    rfl
  | endIf => rfl
  | assign target expression => exact ofTrimmed_assign target expression formed.1.1 formed.1.2

/-- Every statement that is well formed is read back from what is printed. -/
theorem readChars_print : readChars statement.print.toList = .ok statement := by
  have line : body statement.print.toList = statement.text.toList := by
    have spelled : statement.print.toList = statement.text.toList ++ [';'] := by simp [print]
    rw [spelled, body_closed _ (text_trimmed formed)]
  unfold readChars
  dsimp only
  rw [line, ofTrimmed_text formed]
  cases statement with
  | beginIf condition => exact readBeginIf_text condition formed
  | setValue value => exact readSetValue_text value formed.1 formed.2
  | send direction content =>
    exact readSend_text direction content formed.1 formed.2.1 formed.2.2
  | endIf => rfl
  | assign target expression =>
    exact readAssign_text target expression formed.1.1 formed.2.1 formed.2.2

end Formed

/-- Reading undoes printing for every statement that can be read, and the kind of the line that it was
read from is its own. -/
theorem read_print (source : String) (line : Nat) (statement : Statement)
    (success : read source line = .ok statement) :
    (∀ number, read statement.print number = .ok statement) ∧
      StatementKind.ofLine source = statement.kind := by
  have chars := (mapError_ok_iff _ _ _).mp success
  obtain ⟨formed, kind⟩ := readChars_ok chars
  refine ⟨?_, by rw [ofLine_eq, kind]⟩
  intro number
  exact (mapError_ok_iff _ _ _).mpr (readChars_print formed)

/-- An assignment to a name that is also a call, with marks of other statements in its expression. -/
def crowdedLine : String := "\t send  = = (a), b\x7d;; "

theorem read_print_crowdedLine :
    read crowdedLine 4 = .ok (.assign "send" "= (a), b\x7d;") ∧
      (∀ number, read "send = = (a), b\x7d;;" number = .ok (.assign "send" "= (a), b\x7d;")) ∧
      StatementKind.ofLine crowdedLine = .assign := by
  have success : read crowdedLine 4 = .ok (.assign "send" "= (a), b\x7d;") := by decide +kernel
  exact ⟨success, read_print crowdedLine 4 _ success⟩

end Statement

end Superstep
