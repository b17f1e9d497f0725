import Superstep.Proofs.Planner.Failure

/-!
# The directions of a send

Whether a send can be planned does not depend on its direction, and neither does the state that it leads
to, but for the blocks. Messages to the sources of edges and messages to their destinations are selected
in the same way from the same tables, with the two ends of the edges exchanged; a send both ways is the
union of these two selects, and a send in no direction adds no block.
-/

namespace Superstep

namespace Planner

/-- The selects of a content in a context along the edges that enter a vertex and along those that leave
it. They differ in the recipient, in the condition on the sender and in the column that groups. -/
structure Opposite (content context : String) (incoming outgoing : Select) : Prop where
  target : incoming.target = some "message" ∧ outgoing.target = some "message"
  sources : incoming.sources = outgoing.sources
  idJoin : incoming.idJoin = outgoing.idJoin
  recipient : incoming.columns = ["edge.src AS id", content ++ " AS val"] ∧
    outgoing.columns = ["edge.dest AS id", content ++ " AS val"]
  sender : ∃ joins, incoming.predicate = "edge.dest = " ++ context ++ ".id" ++ joins ∧
    outgoing.predicate = "edge.src = " ++ context ++ ".id" ++ joins
  group : incoming.groupBy = some "src" ∧ outgoing.groupBy = some "dest"

/-- The blocks that a send adds at a depth, from its selects along the edges that enter a vertex and along
those that leave it. -/
def messageBlocks (depth : Nat) (incoming outgoing : Select) : Direction → List Block
  | .incoming => [⟨"sendMsg", depth, .select incoming⟩]
  | .outgoing => [⟨"sendMsg", depth, .select outgoing⟩]
  | .both => [⟨"sendMsg", depth, .union {
      columns := ["*"]
      target := "message"
      left := ⟨"genMsg0", depth + 1, { incoming with target := none }⟩
      right := ⟨"genMsg1", depth + 1, { outgoing with target := none }⟩
      operator := .unionAll }⟩]
  | .none => []

namespace Sending

/-- Both selects of a send are made from the same tables, degrees included. -/
theorem opposite (sending : Sending) :
    Opposite sending.content sending.context (sending.incoming (some Table.message))
      (sending.outgoing (some Table.message)) where
  target := ⟨rfl, rfl⟩
  sources := rfl
  idJoin := rfl
  recipient := ⟨rfl, rfl⟩
  sender := ⟨sending.degreeJoin, rfl, rfl⟩
  group := ⟨rfl, rfl⟩

end Sending

/-- The block of a send, if there is one, is made of its two selects. -/
theorem sendBlock?_eq (state : PlanState) (way : Direction) (content : String) (scanned : Scanned) :
    (sendBlock? state way content scanned).toList =
      messageBlocks state.listing.depth
        ((Sending.plan state.scope.current content scanned.referencedTables).incoming
          (some Table.message))
        ((Sending.plan state.scope.current content scanned.referencedTables).outgoing
          (some Table.message)) way := by
  cases way <;> rfl

section Refusal

variable (state : PlanState) (way : Direction) {content : String}

/-- A content that cannot be read is refused before the direction is looked at. -/
theorem run_sendMessages_of_unreadable {error : ScanError}
    (unreadable : Expression.scan content = .error error) :
    (sendMessages way content).run state = .error (.unreadable error) state := by
  refine (bind_error_iff _ _ _ _ _).mpr (.inr ⟨_, state, run_context state, ?_⟩)
  refine (bind_error_iff _ _ _ _ _).mpr (.inl ?_)
  rw [scan, unreadable]
  rfl

/-- A content that reads a table that is not there is refused before the direction is looked at. -/
theorem run_sendMessages_of_unknown {scanned : Scanned} {error : PlanError}
    (scans : Expression.scan content = .ok scanned)
    (unknown : state.tables.checkAllLive scanned.referencedTables = .error error) :
    (sendMessages way content).run state = .error error state := by
  refine (bind_error_iff _ _ _ _ _).mpr (.inr ⟨_, state, run_context state, ?_⟩)
  refine (bind_error_iff _ _ _ _ _).mpr
    (.inr ⟨scanned, state, (scan_ok_iff _ _ _ _).mpr ⟨scans, rfl⟩, ?_⟩)
  refine (bind_error_iff _ _ _ _ _).mpr (.inl ?_)
  exact (bind_error_iff _ _ _ _ _).mpr
    (.inr ⟨state, state, rfl, (check_error_iff _ _ _ _).mpr ⟨unknown, rfl⟩⟩)

end Refusal

/-- A send whose content can be read is planned in every direction. The tables, the senders and the
settings afterwards are the same then, scope and names are those before, and the blocks are made of two
selects that differ in the ends of the edges only. Any other send is refused in every direction with the
same error, and the state is left alone. -/
theorem sends_differ_in_ends (state : PlanState) (content : String) :
    ((∃ scanned, Reads state content scanned) ∧
      ∃ incoming outgoing tables senders settings,
        Opposite content state.scope.current incoming outgoing ∧
        ∀ way, (sendMessages way content).run state = .ok () { state with
          tables, senders, settings
          listing := { state.listing with
            blocks := state.listing.blocks ++
              messageBlocks state.listing.depth incoming outgoing way } }) ∨
    ((¬ ∃ scanned, Reads state content scanned) ∧
      ∃ error, ∀ way, (sendMessages way content).run state = .error error state) := by
  cases scans : Expression.scan content with
  | error error =>
    refine .inr ⟨?_, _, fun way => run_sendMessages_of_unreadable state way scans⟩
    rintro ⟨scanned, reads⟩
    rw [reads.scans] at scans
    cases scans
  | ok scanned =>
    cases live : state.tables.checkAllLive scanned.referencedTables with
    | error error =>
      refine .inr ⟨?_, _, fun way => run_sendMessages_of_unknown state way scans live⟩
      rintro ⟨other, reads⟩
      obtain rfl := Except.ok.inj (scans.symm.trans reads.scans)
      rw [(WorkingSet.checkAllLive_ok_iff _ _ ()).mpr reads.live] at live
      cases live
    | ok =>
      have reads : Reads state content scanned :=
        ⟨scans, (WorkingSet.checkAllLive_ok_iff _ _ ()).mp live⟩
      have ends := (Sending.plan state.scope.current content scanned.referencedTables).opposite
      rw [Sending.plan_content, Sending.plan_context] at ends
      refine .inl ⟨⟨scanned, reads⟩, _, _, ⟨addNew state.tables.live Table.message⟩,
        scanned.referencedTables.foldl (fun set table => insertText table set) state.senders,
        state.settings.set "contentStr" content, ends, ?_⟩
      intro way
      rw [← sendBlock?_eq]
      exact (sendMessages_ok_iff state _ way content).mpr ⟨scanned, reads, rfl⟩

end Planner

end Superstep
