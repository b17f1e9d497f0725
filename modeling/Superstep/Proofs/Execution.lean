import Mathlib.Logic.Relation

/-!
# Executing the loop of a program

The lines of a program are executed one after the other, as far as the loops and their variable go. A loop
is entered as long as its variable is not zero, and its last line before the end may count the variable
down or set it to a number of rows. A loop that only counts down keeps the sum of its variable and of the
iterations begun, so it can end in one way only: after as many iterations as the variable had at first.
-/

namespace Superstep

/-- What a line of a program does to loops and their variable. -/
inductive LoopLine where
  | opening
  | closing
  | decrement
  /-- The variable becomes the number of rows of a table. -/
  | recount
  | other
  deriving DecidableEq, Repr

/-- The part that a line has in a loop, told by its text. -/
def LoopLine.ofText (text : String) : LoopLine :=
  if text = "WHILE flag != 0 LOOP" then .opening
  else if text = "END LOOP;" then .closing
  else if text = "flag := flag - 1;" then .decrement
  else if "SELECT COUNT(*) INTO flag FROM ".toList <+: text.toList then .recount
  else .other

structure Execution where
  /-- The lines to come. -/
  rest : List String
  /-- The loops that have been entered, the innermost first, each with all its lines. -/
  loops : List (List String) := []
  flag : Int
  /-- How many times a loop has been entered. -/
  iterations : Nat := 0
  deriving DecidableEq, Repr

namespace Execution

/-- The lines behind the end of a loop, with a number of inner loops to be ended before. -/
def behindLoop : Nat → List String → List String
  | _, [] => []
  | inner, line :: rest =>
    match LoopLine.ofText line, inner with
    | .opening, _ => behindLoop (inner + 1) rest
    | .closing, 0 => rest
    | .closing, outer + 1 => behindLoop outer rest
    | .decrement, _ | .recount, _ | .other, _ => behindLoop inner rest

/-- Executes one line, if there is one. `rows` says how many rows are counted in each iteration. -/
def step? (rows : Nat → Nat) (now : Execution) : Option Execution :=
  match now.rest with
  | [] => none
  | line :: rest =>
    match LoopLine.ofText line with
    | .opening =>
      if now.flag = 0 then some { now with rest := behindLoop 0 rest }
      else some { now with rest, loops := now.rest :: now.loops, iterations := now.iterations + 1 }
    | .closing =>
      match now.loops with
      | [] => none
      | loop :: loops => some { now with rest := loop, loops }
    | .decrement => some { now with rest, flag := now.flag - 1 }
    | .recount => some { now with rest, flag := rows now.iterations }
    | .other => some { now with rest }

def LeadsTo (rows : Nat → Nat) : Execution → Execution → Prop :=
  Relation.ReflTransGen fun now next => now.step? rows = some next

/-- The execution comes to the end of the program, after a number of iterations. -/
def EndsAfter (rows : Nat → Nat) (start : Execution) (iterations : Nat) : Prop :=
  ∃ last, start.LeadsTo rows last ∧ last.rest = [] ∧ last.loops = [] ∧ last.iterations = iterations

def Quiet (lines : List String) : Prop := ∀ line ∈ lines, LoopLine.ofText line = .other

def countdownLoop (body : List String) : List String :=
  "WHILE flag != 0 LOOP" :: (body ++ ["flag := flag - 1;", "END LOOP;"])

section Countdown

variable (rows : Nat → Nat) {body : List String} (quiet : Quiet body)

theorem step?_other {line : String} (other : LoopLine.ofText line = .other) (rest : List String)
    (loops : List (List String)) (flag : Int) (iterations : Nat) :
    step? rows ⟨line :: rest, loops, flag, iterations⟩ = some ⟨rest, loops, flag, iterations⟩ := by
  simp only [step?, other]

theorem step?_decrement (rest : List String) (loops : List (List String)) (flag : Int)
    (iterations : Nat) :
    step? rows ⟨"flag := flag - 1;" :: rest, loops, flag, iterations⟩ =
      some ⟨rest, loops, flag - 1, iterations⟩ := rfl

theorem step?_closing (rest loop : List String) (flag : Int) (iterations : Nat) :
    step? rows ⟨"END LOOP;" :: rest, [loop], flag, iterations⟩ =
      some ⟨loop, [], flag, iterations⟩ := rfl

theorem step?_enter {flag : Int} (more : flag ≠ 0) (iterations : Nat) :
    step? rows ⟨countdownLoop body, [], flag, iterations⟩ =
      some ⟨body ++ ["flag := flag - 1;", "END LOOP;"], [countdownLoop body], flag,
        iterations + 1⟩ := if_neg more

include quiet in
theorem behindLoop_body : behindLoop 0 (body ++ ["flag := flag - 1;", "END LOOP;"]) = [] := by
  induction body with
  | nil => rfl
  | cons line body ih =>
    obtain ⟨here, later⟩ := List.forall_mem_cons.mp quiet
    simp only [List.cons_append, behindLoop, here]
    exact ih later

include quiet in
theorem step?_leave (iterations : Nat) :
    step? rows ⟨countdownLoop body, [], 0, iterations⟩ = some ⟨[], [], 0, iterations⟩ := by
  have left : step? rows ⟨countdownLoop body, [], 0, iterations⟩ =
      some ⟨behindLoop 0 (body ++ ["flag := flag - 1;", "END LOOP;"]), [], 0, iterations⟩ := rfl
  rw [left, behindLoop_body quiet]

/-- Where an execution of quiet lines and a loop that counts down from `start` can be, and what its
variable is there. -/
inductive CountsDown (body : List String) (start : Int) : Execution → Prop where
  | outside (before : List String) (quiet : Quiet before) (flag : Int) (iterations : Nat)
      (count : flag + iterations = start) :
      CountsDown body start ⟨before ++ countdownLoop body, [], flag, iterations⟩
  /-- The iteration has begun, and its countdown is still to come. -/
  | inside (left : List String) (quiet : Quiet left) (flag : Int) (iterations : Nat)
      (count : flag + iterations = start + 1) :
      CountsDown body start
        ⟨left ++ ["flag := flag - 1;", "END LOOP;"], [countdownLoop body], flag, iterations⟩
  | counted (flag : Int) (iterations : Nat) (count : flag + iterations = start) :
      CountsDown body start ⟨["END LOOP;"], [countdownLoop body], flag, iterations⟩
  | ended (iterations : Nat) (count : iterations = start) :
      CountsDown body start ⟨[], [], 0, iterations⟩

include quiet in
/-- One step stays on the way: in quiet lines, at the test, in the body, or at its end. -/
theorem CountsDown.step {start : Int} {now next : Execution} (counts : CountsDown body start now)
    (stepped : now.step? rows = some next) : CountsDown body start next := by
  cases counts with
  | outside before passed flag iterations count =>
    cases before with
    | nil =>
      -- Only at the head of the loop does the variable decide where the execution goes.
      by_cases zero : flag = 0
      · subst zero
        obtain rfl := Option.some.inj ((step?_leave rows quiet iterations).symm.trans stepped)
        exact .ended iterations (by omega)
      · obtain rfl := Option.some.inj ((step?_enter rows zero iterations).symm.trans stepped)
        exact .inside body quiet flag (iterations + 1) (by omega)
    | cons line before =>
      obtain ⟨here, later⟩ := List.forall_mem_cons.mp passed
      obtain rfl := Option.some.inj ((step?_other rows here _ _ _ _).symm.trans stepped)
      exact .outside before later flag iterations count
  | inside left passed flag iterations count =>
    cases left with
    | nil =>
      obtain rfl := Option.some.inj ((step?_decrement rows _ _ _ _).symm.trans stepped)
      exact .counted (flag - 1) iterations (by omega)
    | cons line left =>
      obtain ⟨here, later⟩ := List.forall_mem_cons.mp passed
      obtain rfl := Option.some.inj ((step?_other rows here _ _ _ _).symm.trans stepped)
      exact .inside left later flag iterations count
  | counted flag iterations count =>
    -- Back at the head of the loop, with no lines before it.
    obtain rfl := Option.some.inj ((step?_closing rows _ _ _ _).symm.trans stepped)
    exact .outside [] (by simp [Quiet]) flag iterations count
  | ended => cases stepped

include quiet in
theorem CountsDown.leadsTo {start : Int} {now later : Execution} (counts : CountsDown body start now)
    (leads : now.LeadsTo rows later) : CountsDown body start later := by
  induction leads with
  | refl => exact counts
  | tail _ stepped ih => exact ih.step rows quiet stepped

/-- At the end there have been as many iterations as the variable had at first. -/
theorem CountsDown.iterations_eq {start : Int} {last : Execution}
    (counts : CountsDown body start last) (done : last.rest = []) : last.iterations = start := by
  cases counts with
  | outside before => simp [countdownLoop] at done
  | inside left => simp at done
  | counted => cases done
  | ended iterations count => exact count

/-- Quiet lines are passed over. -/
theorem leadsTo_of_quiet {lines : List String} (passed : Quiet lines) (rest : List String)
    (loops : List (List String)) (flag : Int) (iterations : Nat) :
    LeadsTo rows ⟨lines ++ rest, loops, flag, iterations⟩ ⟨rest, loops, flag, iterations⟩ := by
  induction lines with
  | nil => exact .refl
  | cons line lines ih =>
    obtain ⟨here, later⟩ := List.forall_mem_cons.mp passed
    exact .head (step?_other rows here _ _ _ _) (ih later)

include quiet in
/-- A loop whose variable is a natural number comes to its end. -/
theorem countdownLoop_leadsTo (count iterations : Nat) :
    LeadsTo rows ⟨countdownLoop body, [], count, iterations⟩ ⟨[], [], 0, iterations + count⟩ := by
  induction count generalizing iterations with
  | zero => exact .single (step?_leave rows quiet iterations)
  | succ count ih =>
    have positive : ((count + 1 : Nat) : Int) ≠ 0 := by omega
    have passed := leadsTo_of_quiet rows quiet ["flag := flag - 1;", "END LOOP;"]
      [countdownLoop body] ((count + 1 : Nat) : Int) (iterations + 1)
    have fewer : ((count + 1 : Nat) : Int) - 1 = (count : Int) := by omega
    have counted := step?_decrement rows ["END LOOP;"] [countdownLoop body] ((count + 1 : Nat) : Int)
      (iterations + 1)
    rw [fewer] at counted
    have closed := step?_closing rows [] (countdownLoop body) (count : Int) (iterations + 1)
    have later := ih (iterations + 1)
    rw [Nat.add_right_comm, Nat.add_assoc] at later
    exact .head (step?_enter rows positive iterations)
      (passed.trans (.head counted (.head closed later)))

include quiet in
/-- A loop that counts down ends after exactly as many iterations as its variable has at first, and so
not at all if that is negative. -/
theorem countdown_endsAfter_iff {before : List String} (passed : Quiet before) (flag : Int)
    (iterations : Nat) :
    EndsAfter rows { rest := before ++ countdownLoop body, flag } iterations ↔
      (iterations : Int) = flag := by
  constructor
  · rintro ⟨last, leads, done, _, rfl⟩
    have counts : CountsDown body flag { rest := before ++ countdownLoop body, flag } :=
      .outside before passed flag 0 (by omega)
    exact (counts.leadsTo rows quiet leads).iterations_eq done
  · rintro rfl
    have ended := countdownLoop_leadsTo rows quiet iterations 0
    rw [Nat.zero_add] at ended
    exact ⟨_, (leadsTo_of_quiet rows passed _ _ _ _).trans ended, rfl, rfl, rfl⟩

end Countdown

end Execution

end Superstep
