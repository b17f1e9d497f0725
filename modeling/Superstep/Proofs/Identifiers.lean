import Superstep.Proofs.ProgramLines
import Superstep.Proofs.Statement.Printing
import Superstep.Proofs.Token.Joining

/-!
# Identifiers

Names are tested twice. The reader of statements looks at the characters of a target or a condition,
and the scanner takes the longest name at the front of an expression and then asks whether it is a
connective. Both accept the same texts. So the tables that a statement names are just those whose
columns an expression can read.
-/

namespace Superstep

namespace Expression

/-- The source is cut up into this token alone. -/
def ScansAs (source : String) (token : Token) : Prop :=
  (scan source).map Scanned.tokens = .ok [token]

theorem scansAs_iff (source : String) (token : Token) :
    ScansAs source token ↔ Munch source.toList [token] := by
  rw [ScansAs, except_map_ok_iff, scan_tokens_iff]

/-- A well-formed token is read back from its own text. -/
theorem scansAs_text {token : Token} (formed : token.WellFormed) : ScansAs token.text token :=
  (scansAs_iff _ _).mpr (.alone token formed)

theorem isIdentifier_iff_scansAs (text : String) :
    isIdentifier text = true ↔ ScansAs text (.ident text) := by
  constructor
  · intro held
    have formed : (Token.ident text).WellFormed := held
    have scans := scansAs_text formed
    rwa [Token.text] at scans
  · intro scans
    exact ((scansAs_iff _ _).mp scans).formed (.ident text) List.mem_cons_self

/-- A column of a table that has an identifier for its name is one token. -/
theorem scansAs_column {name field : String} (held : isIdentifier name = true)
    (isField : Text.isName field.toList = true) :
    ScansAs (name ++ "." ++ field) (.qualified name field) := by
  have formed : (Token.qualified name field).WellFormed :=
    ⟨(Scan.word_of_identifier name held).1, isField⟩
  have scans := scansAs_text formed
  rwa [Token.text] at scans

end Expression

namespace Statement

/-- A statement can be read from some line exactly if its parts have their shapes. -/
theorem exists_read_iff (statement : Statement) :
    (∃ source line, read source line = .ok statement) ↔ statement.WellFormed := by
  constructor
  · rintro ⟨source, line, success⟩
    exact (readChars_ok ((mapError_ok_iff _ _ _).mp success)).1
  · intro formed
    exact ⟨statement.print, 1, (mapError_ok_iff _ _ _).mpr (readChars_print formed)⟩

/-- A table can be assigned to if its name is an identifier, with the one word `if` set aside. -/
theorem exists_read_assign_iff (target : String) :
    (∃ source line expression, read source line = .ok (.assign target expression)) ↔
      Expression.isIdentifier target = true ∧ target ≠ "if" := by
  constructor
  · rintro ⟨source, line, expression, success⟩
    have formed := (exists_read_iff _).mp ⟨source, line, success⟩
    exact formed.1
  · intro isTarget
    have formed : (assign target "0").WellFormed :=
      ⟨isTarget, List.cons_ne_nil _ _, .singleton '0' rfl⟩
    obtain ⟨source, line, success⟩ := (exists_read_iff _).mpr formed
    exact ⟨source, line, "0", success⟩

end Statement

open Expression

/-- The test for an identifier and the scanner accept the same texts. Conditions are identifiers, and
targets are those of them that do not begin a condition. All of them can be followed by a column. -/
theorem identifiers_agree :
    (∀ text, isIdentifier text = true ↔ ScansAs text (.ident text)) ∧
      (∀ name, (∃ source line, Statement.read source line = .ok (.beginIf name)) ↔
        isIdentifier name = true) ∧
      (∀ name, (∃ source line expression,
          Statement.read source line = .ok (.assign name expression)) ↔
        isIdentifier name = true ∧ name ≠ "if") ∧
      ∀ source line statement, Statement.read source line = .ok statement →
        ∀ name ∈ statement.names, ∀ field ∈ ["id", "val"],
          ScansAs (name ++ "." ++ field) (.qualified name field) := by
  refine ⟨isIdentifier_iff_scansAs, fun name => Statement.exists_read_iff (.beginIf name),
    Statement.exists_read_assign_iff, ?_⟩
  intro source line statement success name member field column
  have held := Statement.readChars_names ((mapError_ok_iff _ _ _).mp success) name member
  have isField : Text.isName field.toList = true := by
    rcases List.mem_pair.mp column with rfl | rfl <;> decide
  exact scansAs_column held isField

/-- Names that go on behind a connective, and a connective, which is none. -/
theorem identifiers_agree_behind_connectives :
    ScansAs "ORDER" (.ident "ORDER") ∧ ¬ ScansAs "OR" (.ident "OR") ∧
      Statement.read "if ( NOT_1 ) \x7b" 3 = .ok (.beginIf "NOT_1") ∧
      ScansAs "NOT_1.id" (.qualified "NOT_1" "id") ∧
      ScansAs "NOT_1.val" (.qualified "NOT_1" "val") := by
  obtain ⟨agree, _, _, columns⟩ := identifiers_agree
  have success : Statement.read "if ( NOT_1 ) \x7b" 3 = .ok (.beginIf "NOT_1") := rfl
  have named := columns _ 3 _ success "NOT_1" List.mem_cons_self
  refine ⟨(agree "ORDER").mp (by decide), ?_, success, named "id" (by decide), named "val" (by decide)⟩
  rw [← agree "OR"]
  decide

end Superstep
