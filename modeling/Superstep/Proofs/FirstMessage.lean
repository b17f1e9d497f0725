import Superstep.Algorithm
import Superstep.Proofs.Outcome
import Superstep.Proofs.Text.Cutting

/-!
# The two spellings of the first message

The first message is written as the arguments of a call, `name(id, value)`, or bare, `id, value`. The
call is looked for in the whole text: an opening parenthesis anywhere with a closing one anywhere behind
it makes the text a call. The arguments of a real call are always read. The bare spelling is read as the
same message if and only if it has no such pair of parentheses.
-/

namespace Superstep

namespace Text

/-- An opening parenthesis stands in the text, and a closing one somewhere behind it. -/
def HasPair (text : List Char) : Prop := ['(', ')'].Sublist text

instance (text : List Char) : Decidable (HasPair text) :=
  inferInstanceAs (Decidable (['(', ')'].Sublist text))

/-- A text with a pair of parentheses is cut at its first opening and its last closing one. -/
theorem HasPair.exists_outermost {text : List Char} (pair : HasPair text) :
    ∃ name inside behind, text = name ++ '(' :: (inside ++ ')' :: behind) ∧
      '(' ∉ name ∧ ')' ∉ behind := by
  obtain ⟨name, after, split, opens⟩ :=
    List.eq_append_cons_of_mem (pair.subset List.mem_cons_self)
  have closing : ')' ∈ after := by
    rw [HasPair, split, List.sublist_append_iff] at pair
    obtain ⟨early, late, parts, inName, behindName⟩ := pair
    cases early with
    | nil =>
      rw [← List.nil_append late, ← parts, List.cons_sublist_cons] at behindName
      exact behindName.subset List.mem_cons_self
    | cons c early =>
      obtain ⟨rfl, _⟩ := List.cons.inj parts
      exact absurd (inName.subset List.mem_cons_self) opens
  obtain ⟨behind, inside, turned, closes⟩ :=
    List.eq_append_cons_of_mem (List.mem_reverse.mpr closing)
  have after_eq : after = inside.reverse ++ ')' :: behind.reverse := by
    rw [← List.reverse_reverse after, turned]
    simp
  exact ⟨name, inside.reverse, behind.reverse, by rw [split, after_eq], opens, by simpa using closes⟩

/-- A text with an opening parenthesis is a call if one is closed behind it. -/
theorem call?_of_cutFirst {text name after : List Char}
    (opened : cutFirst '(' text = some (name, after)) :
    call? text = (cutLast ')' after).map fun parts => (trim name, trim parts.1) := by
  rw [call?, opened]
  cases closed : cutLast ')' after with
  | none => simp only [Option.bind_eq_bind, Option.bind_some, closed]; rfl
  | some parts => simp only [Option.bind_eq_bind, Option.bind_some, closed]; rfl

theorem call?_append (name inside behind : List Char) (opens : '(' ∉ name) (closes : ')' ∉ behind) :
    call? (name ++ '(' :: (inside ++ ')' :: behind)) = some (trim name, trim inside) := by
  rw [call?_of_cutFirst (cutFirst_append name _ opens), cutLast_append inside behind closes]
  rfl

/-- Without a pair of parentheses there is no call. -/
theorem call?_eq_none {text : List Char} (single : ¬ HasPair text) : call? text = none := by
  cases opened : cutFirst '(' text with
  | none =>
    rw [call?, opened]
    rfl
  | some parts =>
    obtain ⟨name, after⟩ := parts
    have unclosed : ')' ∉ after := by
      intro closing
      have behind : [')'].Sublist after := List.singleton_sublist.mpr closing
      rw [(cutFirst_ok opened).1] at single
      exact single ((List.cons_sublist_cons.mpr behind).trans (List.sublist_append_right name _))
    rw [call?_of_cutFirst opened, cutLast_of_not_mem after unclosed]
    rfl

theorem length_trim_le (text : List Char) : (trim text).length ≤ text.length := by
  obtain ⟨_, front, back, split, _⟩ := (trim_eq_iff text _).mp rfl
  have lengths := congrArg List.length split
  simp only [List.length_append] at lengths
  omega

/-- Only the name of a call has blanks to lose. -/
theorem trim_called (name inside : List Char) :
    trim (name ++ '(' :: (inside ++ [')'])) = trimStart name ++ '(' :: (inside ++ [')']) := by
  refine (trim_eq_iff _ _).mpr ⟨⟨?_, ?_⟩, name.takeWhile isBlank, [], ?_, ?_, rfl⟩
  · intro c first
    cases start : trimStart name with
    | nil =>
      rw [start] at first
      obtain rfl := Option.some.inj first
      decide
    | cons d rest =>
      refine head?_dropWhile isBlank name c ?_
      rw [start] at first
      rw [← trimStart, start]
      exact first
  · intro c last
    have ended : (trimStart name ++ '(' :: (inside ++ [')'])).getLast? = some ')' := by
      rw [← List.cons_append, ← List.append_assoc, List.getLast?_concat]
    obtain rfl := Option.some.inj (ended.symm.trans last)
    decide
  · rw [List.append_nil, ← List.append_assoc, trimStart, List.takeWhile_append_dropWhile]
  · exact List.all_eq_true.mpr fun _ member => List.mem_takeWhile_imp member

theorem Trimmed.of_trimmed {text : String} (same : trimmed text = text) : Trimmed text.toList := by
  have chars := congrArg String.toList same
  rw [trimmed, String.toList_ofList] at chars
  exact chars ▸ trim_trimmed text.toList

end Text

open Text

/-- The message with a value, to one vertex or to every vertex if `ALL` stands in place of its id. -/
def FirstMessage.of (id value : String) : FirstMessage :=
  if id = "ALL" then .allVertices value else .single id value

theorem FirstMessage.of_inj {id value other held : String}
    (same : FirstMessage.of id value = FirstMessage.of other held) : id = other ∧ value = held := by
  unfold FirstMessage.of at same
  split at same <;> split at same
  · rename_i all alsoAll
    exact ⟨all.trans alsoAll.symm, FirstMessage.allVertices.inj same⟩
  · cases same
  · cases same
  · exact FirstMessage.single.inj same

theorem FirstMessage.of_ofList (id value : List Char) :
    FirstMessage.of (String.ofList id) (String.ofList value) =
      if id = "ALL".toList then .allVertices (String.ofList value)
      else .single (String.ofList id) (String.ofList value) := by
  have spelled : String.ofList id = "ALL" ↔ id = "ALL".toList := by
    rw [← String.toList_inj, String.toList_ofList]
  simp only [FirstMessage.of, spelled]

/-- A text that can be the id or the value of a message: it is not empty, has no blanks around it and no
comma in it. -/
structure FirstMessage.IsPart (text : String) : Prop where
  filled : text ≠ ""
  trimmed : Text.trimmed text = text
  whole : ',' ∉ text.toList

namespace Algorithm

/-- The text that the parts of the first message are read from. -/
def messageArguments (text : List Char) : List Char := ((call? text).map (·.2)).getD text

/-- A first message is read from two parts, neither of them empty. -/
theorem startMessage_ok_iff (algorithm : Algorithm) (message : FirstMessage) :
    algorithm.startMessage = .ok message ↔
      ∃ id value, (pieces ',' (messageArguments (trim algorithm.firstMessage.toList))).map trim =
          [id, value] ∧ id ≠ [] ∧ value ≠ [] ∧
        message = .of (String.ofList id) (String.ofList value) := by
  simp only [startMessage]
  split
  · rename_i id value parts
    have cut : (pieces ',' (messageArguments (trim algorithm.firstMessage.toList))).map trim =
      [id, value] := parts
    rw [cut]
    cases empty : id.isEmpty || value.isEmpty with
    | true =>
      rw [if_pos rfl]
      constructor
      · intro refused
        cases refused
      · rintro ⟨_, _, same, filled, held, _⟩
        cases same
        simp [filled, held] at empty
    | false =>
      rw [if_neg Bool.false_ne_true, ← apply_ite Except.ok, ← FirstMessage.of_ofList]
      rw [Bool.or_eq_false_iff, List.isEmpty_eq_false_iff, List.isEmpty_eq_false_iff] at empty
      constructor
      · intro read
        exact ⟨id, value, rfl, empty.1, empty.2, (Except.ok.inj read).symm⟩
      · rintro ⟨_, _, same, _, _, rfl⟩
        cases same
        rfl
  · rename_i other
    constructor
    · intro refused
      cases refused
    · rintro ⟨id, value, cut, _⟩
      exact absurd cut (other id value)

theorem messageArguments_append (name inside behind : List Char) (opens : '(' ∉ name)
    (closes : ')' ∉ behind) :
    messageArguments (name ++ '(' :: (inside ++ ')' :: behind)) = trim inside := by
  rw [messageArguments, call?_append name inside behind opens closes]
  rfl

theorem messageArguments_of_not_hasPair {text : List Char} (single : ¬ HasPair text) :
    messageArguments text = text := by
  rw [messageArguments, call?_eq_none single]
  rfl

/-- The parts of a message are no longer than the text that they are read from, less the comma. -/
theorem length_parts {text id value : List Char}
    (cut : (pieces ',' text).map trim = [id, value]) : id.length + 1 + value.length ≤ text.length := by
  obtain ⟨first, second, split, rfl, rfl⟩ : ∃ first second, pieces ',' text = [first, second] ∧
      trim first = id ∧ trim second = value := by
    obtain ⟨first, rest, split, same, others⟩ := List.map_eq_cons_iff.mp cut
    obtain ⟨second, none, split', same', ended⟩ := List.map_eq_cons_iff.mp others
    rw [split', List.map_eq_nil_iff.mp ended] at split
    exact ⟨first, second, split, same, same'⟩
  have whole := intercalate_pieces ',' text
  have shorter := length_trim_le first
  have alsoShorter := length_trim_le second
  have lengths : first.length + 1 + second.length = text.length := by
    rw [← whole, split]
    simp [List.intercalate_cons_cons]
    omega
  omega

section Spellings

variable {id value : String} (idPart : FirstMessage.IsPart id) (valuePart : FirstMessage.IsPart value)

include idPart valuePart

theorem trimmed_bare : Trimmed (id ++ ", " ++ value).toList := by
  have joined := Trimmed.joined [',', ' '] (.of_trimmed idPart.trimmed) (.of_trimmed valuePart.trimmed)
    (by simpa using idPart.filled) (by simpa using valuePart.filled)
  simpa using joined

/-- Two parts with a comma between them are read as their message. -/
theorem startMessage_of_arguments (algorithm : Algorithm)
    (arguments : messageArguments (trim algorithm.firstMessage.toList) = (id ++ ", " ++ value).toList) :
    algorithm.startMessage = .ok (.of id value) := by
  have spelled : (id ++ ", " ++ value).toList = id.toList ++ ',' :: ' ' :: value.toList := by simp
  have blankFree : ',' ∉ ' ' :: value.toList :=
    List.not_mem_cons_of_ne_of_not_mem (by decide) valuePart.whole
  refine (startMessage_ok_iff _ _).mpr ⟨id.toList, value.toList, ?_, ?_, ?_, ?_⟩
  · rw [arguments, spelled, pieces_append _ _ idPart.whole, pieces_of_not_mem _ blankFree,
      List.map_cons, List.map_singleton, (Trimmed.of_trimmed idPart.trimmed).trim_eq,
      (Trimmed.of_trimmed valuePart.trimmed).trim_space_cons]
  · simpa using idPart.filled
  · simpa using valuePart.filled
  · rw [String.ofList_toList, String.ofList_toList]

/-- The arguments of a call are what stands between its parentheses. -/
theorem messageArguments_called {name : String} (opens : '(' ∉ name.toList) :
    messageArguments (trim (name ++ "(" ++ id ++ ", " ++ value ++ ")").toList) =
      (id ++ ", " ++ value).toList := by
  have spelled : (name ++ "(" ++ id ++ ", " ++ value ++ ")").toList =
      name.toList ++ '(' :: ((id ++ ", " ++ value).toList ++ ')' :: []) := by simp
  have free : '(' ∉ trimStart name.toList :=
    fun member => opens ((List.dropWhile_sublist _).subset member)
  rw [spelled, trim_called, messageArguments_append _ _ [] free List.not_mem_nil]
  exact (trimmed_bare idPart valuePart).trim_eq

/-- With a pair of parentheses something shorter is read. -/
theorem startMessage_bare_ne (algorithm : Algorithm)
    (bare : algorithm.firstMessage = id ++ ", " ++ value)
    (pair : HasPair (id ++ ", " ++ value).toList) :
    algorithm.startMessage ≠ .ok (.of id value) := by
  intro same
  obtain ⟨first, second, cut, _, _, read⟩ := (startMessage_ok_iff _ _).mp same
  obtain ⟨rfl, rfl⟩ := FirstMessage.of_inj read
  obtain ⟨name, inside, behind, split, opens, closes⟩ := pair.exists_outermost
  rw [bare, (trimmed_bare idPart valuePart).trim_eq, split,
    messageArguments_append name inside behind opens closes] at cut
  have fits := length_parts cut
  have shorter := length_trim_le inside
  have lengths := congrArg List.length split
  have separator : ", ".toList.length = 2 := rfl
  simp only [String.toList_append, String.toList_ofList, List.length_append, List.length_cons,
    separator] at lengths
  omega

end Spellings

/-- A call is read as the message of its two arguments. The bare spelling is read as the same message if
and only if no parenthesis in it is closed behind it. Of the name of the call only the opening
parenthesis matters, since a closing one before it is passed over. -/
theorem spellings_agree_iff (algorithm : Algorithm) (name id value : String)
    (opens : '(' ∉ name.toList) (idPart : FirstMessage.IsPart id)
    (valuePart : FirstMessage.IsPart value) :
    { algorithm with firstMessage := name ++ "(" ++ id ++ ", " ++ value ++ ")" }.startMessage =
        .ok (.of id value) ∧
      ({ algorithm with firstMessage := id ++ ", " ++ value }.startMessage = .ok (.of id value) ↔
        ¬ HasPair (id ++ ", " ++ value).toList) := by
  refine ⟨?_, ?_, ?_⟩
  · exact startMessage_of_arguments idPart valuePart _ (messageArguments_called idPart valuePart opens)
  · intro read pair
    exact startMessage_bare_ne idPart valuePart _ rfl pair read
  · intro single
    refine startMessage_of_arguments idPart valuePart _ ?_
    rw [(trimmed_bare idPart valuePart).trim_eq, messageArguments_of_not_hasPair single]

def seeded (firstMessage : String) : Algorithm where
  finish := "NO_MESSAGE"
  firstValue := "0"
  firstMessage := firstMessage
  messageType := "int"
  vertexType := none
  combine := "MIN(message)"
  update := ""

/-- Parentheses do no harm as long as none is closed behind it. -/
theorem spellings_agree_iff_turned :
    ¬ HasPair "1), (2".toList ∧
      (seeded "Init(1), (2)").startMessage = .ok (.single "1)" "(2") ∧
      (seeded "1), (2").startMessage = .ok (.single "1)" "(2") := by
  have idPart : FirstMessage.IsPart "1)" := ⟨by decide, by decide, by decide⟩
  have valuePart : FirstMessage.IsPart "(2" := ⟨by decide, by decide, by decide⟩
  have single : ¬ HasPair "1), (2".toList := by decide
  obtain ⟨called, bare⟩ :=
    spellings_agree_iff (seeded "") "Init" "1)" "(2" (by decide) idPart valuePart
  exact ⟨single, called, bare.mpr single⟩

/-- A bare spelling that is also a call is read as the call. -/
theorem spellings_disagree :
    (seeded "Start(Init(1, 2))").startMessage = .ok (.single "Init(1" "2)") ∧
      (seeded "Init(1, 2)").startMessage = .ok (.single "1" "2") := by
  decide

/-- A bare spelling with parentheses in its value is refused, although it is no call. -/
example :
    (seeded "Init(ALL, 'a(b)')").startMessage = .ok (.allVertices "'a(b)'") ∧
      (seeded "ALL, 'a(b)'").startMessage = .error (.invalidOption .firstMessageShape) := by
  decide

end Algorithm

end Superstep
