import Superstep.Proofs.Bracketing
import Superstep.Proofs.Text.Cutting

/-!
# Stages and depths are layout

A block carries the name of the stage that produced it and its depth, and so do the sides of a union.
The depth moves lines to the right and the stage is named in errors, but neither decides whether there
is a program or what it says. Lines are indented with spaces only, and a text of several lines is
indented once, so without the spaces at the start of its lines the program is the same at every depth
at which its lines can be indented.
-/

namespace Superstep

namespace Text

end Text

open Text

/-- The side of a union without its stage and its depth. -/
def SubSelect.unmarked (side : SubSelect) : SubSelect :=
  { side with stage := "", depth := 0 }

/-- The action without the stages and the depths of what is nested in it. -/
def Action.unmarked : Action → Action
  | .union pair => .union { pair with left := pair.left.unmarked, right := pair.right.unmarked }
  | action => action

/-- The block without its stage and its depth. -/
def Block.unmarked (block : Block) : Block := ⟨"", 0, block.action.unmarked⟩

/-- The kind of an error: the error without the stage that it names. -/
def SqlError.unmarked : SqlError → SqlError
  | .unbalancedLoop _ => .unbalancedLoop ""
  | .unclosedLoop => .unclosedLoop
  | .anonymousSelect _ => .anonymousSelect ""
  | .tooDeep => .tooDeep

namespace Block

def heading (declared : List String) : String :=
  "DO $$\n"
    ++ (if declared.isEmpty then ""
        else "DECLARE\n" ++ String.join (declared.map fun text => SqlLine.written ⟨1, text⟩))
    ++ "BEGIN"

theorem toList_programText (blocks : List Block) :
    (programText blocks).toList = (heading (declarations blocks)).toList ++ '\n' ::
      ((String.join ((blocks.flatMap sqlLines).map SqlLine.written)).toList ++
        "END $$;\n".toList) := by
  simp [programText, heading]

theorem program_ok_iff (blocks : List Block) (text : String) :
    program blocks = .ok text ↔ checkFrom 0 blocks = .ok () ∧ programText blocks = text := by
  rw [program, except_bind_ok_iff]
  constructor
  · rintro ⟨_, checked, same⟩
    exact ⟨checked, Except.ok.inj same⟩
  · rintro ⟨checked, rfl⟩
    exact ⟨(), checked, rfl⟩

/-- A text of two lines, and a union. -/
def shallow : List Block :=
  [⟨"load", 0, .statement "  LOAD 'a';\n  LOAD 'b';"⟩,
    ⟨"send", 0, .union
      { columns := ["*"], target := "message", operator := .unionAll
        left := ⟨"in", 0, ⟨["a.id"], none, ["a"], "", false, none⟩⟩
        right := ⟨"out", 0, ⟨["b.id"], none, ["b"], "", false, none⟩⟩ }⟩]

end Block

end Superstep
