import Superstep.Proofs.Text.Overlap
import Superstep.Proofs.Token.Renaming

/-!
# Filling in placeholders

Placeholders are filled in one after the other, each in the text that the one before has left. Neither
comes into being or is taken apart on the way, because a context is a name and both placeholders end
with parentheses. So the text is filled in by one walk, which takes every placeholder where it begins,
and none is left behind.
-/

namespace Superstep

namespace Text

/-- Whether a word begins in the first of two texts. It may reach into the second. -/
def beginsIn (word : List Char) : List Char → List Char → Bool
  | [], _ => false
  | c :: text, rest => word.isPrefixOf (c :: (text ++ rest)) || beginsIn word text rest

theorem beginsIn_cons_eq_false_iff (word : List Char) (c : Char) (text rest : List Char) :
    beginsIn word (c :: text) rest = false ↔
      ¬ word <+: c :: (text ++ rest) ∧ beginsIn word text rest = false := by
  rw [beginsIn, Bool.or_eq_false_iff, ← Bool.not_eq_true, List.isPrefixOf_iff_prefix]

/-- A word does not begin where its first character is missing. -/
theorem beginsIn_of_not_mem (first : Char) (word text rest : List Char) (absent : first ∉ text) :
    beginsIn (first :: word) text rest = false := by
  induction text with
  | nil => rfl
  | cons c text ih =>
    rw [List.mem_cons, not_or] at absent
    rw [beginsIn_cons_eq_false_iff]
    refine ⟨?_, ih absent.2⟩
    intro here
    exact absent.1 (List.cons_prefix_cons.mp here).1

/-- A name begins with a character that names start with. -/
theorem exists_start_of_isName {name : List Char} (held : isName name = true) :
    ∃ first others, name = first :: others ∧ isNameStart first = true := by
  cases name with
  | nil => cases held
  | cons first others => exact ⟨first, others, rfl, (Bool.and_eq_true_iff.mp held).1⟩

/-- A name and a mark behind it have no other reading as a name and a mark. -/
theorem name_mark_unique {one other rest behind : List Char} {mark otherMark : Char}
    (same : one ++ mark :: rest = other ++ otherMark :: behind)
    (held : ∀ c ∈ one, isNameChar c = true) (otherHeld : ∀ c ∈ other, isNameChar c = true)
    (stop : isNameChar mark = false) (otherStop : isNameChar otherMark = false) :
    one = other ∧ mark = otherMark := by
  have stops : ∀ (m : Char) (cs : List Char), isNameChar m = false →
      ∀ c, (m :: cs).head? = some c → isNameChar c = false := by
    intro m cs noName c first
    rwa [← Option.some.inj first]
  obtain ⟨names, marks⟩ := run_unique same held otherHeld (stops _ _ stop) (stops _ _ otherStop)
  exact ⟨names, (List.cons.inj marks).1⟩

end Text

namespace Expression

open Text

def fillChars (context text : List Char) : List Char :=
  replace valuePlaceholder.toList (Table.values ++ ".val").toList
    (replace combinedPlaceholder.toList (context ++ ".val".toList) text)

theorem toList_fillPlaceholders (source context : String) :
    (fillPlaceholders source context).toList = fillChars context.toList source.toList := by
  simp [fillPlaceholders, fillChars]

/-- The names of the placeholders, each with the table whose value stands in its place. -/
inductive Fills (context : List Char) : List Char → List Char → Prop where
  | combined : Fills context "getAggregationVal".toList context
  | value : Fills context "getVal".toList Table.values.toList

def call (name : List Char) : List Char := name ++ ['(', ')']

theorem combinedPlaceholder_eq : combinedPlaceholder.toList = call "getAggregationVal".toList := rfl

theorem valuePlaceholder_eq : valuePlaceholder.toList = call "getVal".toList := rfl

/-- A call does not overlap with a value that is read from a table. -/
theorem call_noOverlap (more : List Char) {table : List Char}
    (isCall : isName ('g' :: more) = true) (isTable : isName table = true) :
    NoOverlap (call ('g' :: more)) (table ++ ".val".toList) := by
  have noPoint : '.' ∉ call ('g' :: more) := by
    have inName : '.' ∉ 'g' :: more := fun member =>
      absurd (isNameChar_of_isName _ isCall '.' member) (by decide)
    rw [call, List.mem_append, not_or]
    exact ⟨inName, by decide⟩
  have noClose : ')' ∉ table ++ ".val".toList := by
    have inTable : ')' ∉ table := fun member =>
      absurd (isNameChar_of_isName _ isTable ')' member) (by decide)
    rw [List.mem_append, not_or]
    exact ⟨inTable, by decide⟩
  refine ⟨?_, ?_⟩
  · -- Every end of a call has its last parenthesis, and no value has one.
    intro rest member some agree
    rw [List.mem_tails] at member
    have closes : ')' ∈ rest := by
      have ends : call ('g' :: more) = ('g' :: more ++ ['(']) ++ [')'] := by simp [call]
      rw [ends, List.suffix_concat_iff] at member
      obtain ⟨front, rfl, _⟩ := member.resolve_left some
      simp
    rcases agree with inside | reaches
    · exact noClose (inside.subset closes)
    · exact noPoint (member.subset (reaches.subset (by simp)))
  · -- Every end of a value has its point, or does not start as a call does.
    intro rest member some agree
    rw [List.mem_tails] at member
    rcases agree with inside | reaches
    · have short : rest <:+ "val".toList := by
        rcases List.suffix_or_suffix_of_suffix member (List.suffix_append table _) with
          short | long
        · rcases List.suffix_cons_iff.mp short with rfl | shorter
          · exact absurd (inside.subset (by decide)) noPoint
          · exact shorter
        · exact absurd (inside.subset (long.subset (by decide))) noPoint
      obtain ⟨c, cs, rfl⟩ := List.exists_cons_of_ne_nil some
      obtain ⟨rfl, _⟩ := List.cons_prefix_cons.mp inside
      exact absurd (short.subset List.mem_cons_self) (by decide)
    · exact noClose (member.subset (reaches.subset (by simp [call])))

theorem combined_noOverlap {table : List Char} (isTable : isName table = true) :
    NoOverlap combinedPlaceholder.toList (table ++ ".val".toList) :=
  call_noOverlap "etAggregationVal".toList (by decide) isTable

theorem value_noOverlap {table : List Char} (isTable : isName table = true) :
    NoOverlap valuePlaceholder.toList (table ++ ".val".toList) :=
  call_noOverlap "etVal".toList (by decide) isTable

theorem placeholders_noOverlap : NoOverlap combinedPlaceholder.toList valuePlaceholder.toList := by
  decide

section Fill

variable {context : List Char} (held : isName context = true)

include held

theorem Fills.table_isName {name table : List Char} (fills : Fills context name table) :
    isName table = true := by
  cases fills with
  | combined => exact held
  | value => decide

omit held in
theorem Fills.name_eq {name table : List Char} (fills : Fills context name table) :
    ∃ more, name = 'g' :: more ∧ isName name = true := by
  cases fills with
  | combined => exact ⟨_, rfl, by decide⟩
  | value => exact ⟨_, rfl, by decide⟩

/-- A placeholder and what stands in its place have no more in common than their names. -/
theorem Fills.common_front {name table : List Char} (fills : Fills context name table)
    {front rest behind after more : List Char} (begins : front ++ rest = call name ++ after)
    (goesOn : front ++ behind = table ++ '.' :: more) : front <+: name ∧ front <+: table := by
  obtain ⟨_, _, isName⟩ := fills.name_eq
  have nameChars := isNameChar_of_isName name isName
  have tableChars := isNameChar_of_isName table (fills.table_isName held)
  have inName : front <+: name := by
    have within : front <+: name ++ '(' :: (')' :: after) := ⟨rest, by rw [begins, call]; simp⟩
    rcases prefix_or_reaches within with inside | ⟨beyond, reaches⟩
    · exact inside
    · rw [← reaches, List.append_assoc, List.append_assoc, List.singleton_append] at goesOn
      exact absurd (name_mark_unique goesOn nameChars tableChars (by decide) (by decide)).2
        (by decide)
  refine ⟨inName, ?_⟩
  rcases prefix_or_reaches ⟨behind, goesOn⟩ with inside | reaches
  · exact inside
  · have point : '.' ∈ name := inName.subset (reaches.subset (by simp))
    exact absurd (nameChars '.' point) (by decide)

/-- A placeholder at the front is filled in, and the rest is filled in on its own. -/
theorem fillChars_call {name table : List Char} (fills : Fills context name table)
    (rest : List Char) :
    fillChars context (call name ++ rest) = table ++ (".val".toList ++ fillChars context rest) := by
  cases fills with
  | combined =>
    rw [← combinedPlaceholder_eq, fillChars, replace_word_append _ _ (by decide),
      (value_noOverlap held).replace_append, List.append_assoc]
    rfl
  | value =>
    rw [← valuePlaceholder_eq, fillChars, placeholders_noOverlap.replace_append,
      replace_word_append _ _ (by decide), String.toList_append, List.append_assoc]
    rfl

theorem fillChars_cons (c : Char) (text : List Char)
    (elsewhere : ∀ name table, Fills context name table → ¬ call name <+: c :: text) :
    fillChars context (c :: text) = c :: fillChars context text := by
  have noCombined : ¬ combinedPlaceholder.toList <+: c :: text := elsewhere _ _ .combined
  have noValue : ¬ valuePlaceholder.toList <+: c :: text := elsewhere _ _ .value
  rw [fillChars, replace_cons _ _ _ _ noCombined, fillChars]
  refine replace_cons _ _ _ _ ?_
  intro here
  exact noValue ((value_noOverlap held).prefix_of_replace (by decide) [c] text here)

/-- A text in which no placeholder begins is kept in front of any other. -/
theorem fillChars_append_of_beginsIn (text rest : List Char)
    (none : ∀ name table, Fills context name table → beginsIn (call name) text rest = false) :
    fillChars context (text ++ rest) = text ++ fillChars context rest := by
  induction text with
  | nil => rfl
  | cons c text ih =>
    have parts := fun name table fills =>
      (beginsIn_cons_eq_false_iff _ _ _ _).mp (none name table fills)
    rw [List.cons_append, fillChars_cons held c _ fun name table fills => (parts name table fills).1,
      ih fun name table fills => (parts name table fills).2, List.cons_append]

/-- Otherwise it is kept up to the first placeholder that begins in it. -/
theorem fillChars_append_cases (text rest : List Char) :
    (∀ name table, Fills context name table → beginsIn (call name) text rest = false) ∨
      ∃ front back behind name table, Fills context name table ∧ text = front ++ back ∧ back ≠ [] ∧
        back ++ rest = call name ++ behind ∧ fillChars context (text ++ rest) =
          front ++ (table ++ (".val".toList ++ fillChars context behind)) := by
  induction text with
  | nil => exact .inl fun _ _ _ => rfl
  | cons c text ih =>
    by_cases here : ∃ name table, Fills context name table ∧ call name <+: c :: (text ++ rest)
    · obtain ⟨name, table, fills, behind, split⟩ := here
      right
      refine ⟨[], c :: text, behind, name, table, fills, rfl, List.cons_ne_nil _ _, split.symm, ?_⟩
      rw [List.cons_append, ← split, fillChars_call held fills, List.nil_append]
    · have elsewhere : ∀ name table, Fills context name table →
          ¬ call name <+: c :: (text ++ rest) :=
        fun name table fills found => here ⟨name, table, fills, found⟩
      rcases ih with none | ⟨front, back, behind, name, table, fills, rfl, some, split, filled⟩
      · left
        intro name table fills
        exact (beginsIn_cons_eq_false_iff _ _ _ _).mpr
          ⟨elsewhere name table fills, none name table fills⟩
      · right
        refine ⟨c :: front, back, behind, name, table, fills, rfl, some, split, ?_⟩
        rw [List.cons_append, fillChars_cons held c _ elsewhere, filled, List.cons_append]

/-- The first character stays, or one that starts a name stands in the place of another. -/
theorem head_fillChars_cases (text : List Char) :
    (fillChars context text).head? = text.head? ∨
      text.head? = some 'g' ∧
        ∃ c, (fillChars context text).head? = some c ∧ isNameStart c = true := by
  cases text with
  | nil => exact .inl rfl
  | cons c text =>
    by_cases here : ∃ name table, Fills context name table ∧ call name <+: c :: text
    · obtain ⟨name, table, fills, behind, split⟩ := here
      obtain ⟨more, rfl, _⟩ := fills.name_eq
      obtain ⟨first, others, rfl, start⟩ := exists_start_of_isName (fills.table_isName held)
      rw [← split, fillChars_call held fills]
      exact .inr ⟨rfl, first, rfl, start⟩
    · left
      rw [fillChars_cons held c text fun name table fills found => here ⟨name, table, fills, found⟩]
      rfl

/-- A text begins with a letter or a digit exactly if it does so when it is filled in. -/
theorem head_fillChars (text : List Char) :
    (fillChars context text).head?.any isNameChar = text.head?.any isNameChar := by
  rcases head_fillChars_cases held text with same | ⟨old, c, new, start⟩
  · rw [same]
  · rw [old, new]
    exact isNameChar_of_isNameStart c start

end Fill

/-- Neither placeholder is left in the text. -/
def Settled (text : String) : Prop :=
  ¬ combinedPlaceholder.toList <:+: text.toList ∧ ¬ valuePlaceholder.toList <:+: text.toList

/-- No placeholder is left: what is filled in cannot complete one with its neighbours. -/
theorem settled_fillPlaceholders (source context : String) (held : isName context.toList = true) :
    Settled (fillPlaceholders source context) := by
  have combinedClear : NoOverlap combinedPlaceholder.toList (context ++ ".val").toList := by
    rw [String.toList_append]
    exact combined_noOverlap held
  have isValues : isName Table.values.toList = true := by decide
  have combinedKept : NoOverlap combinedPlaceholder.toList (Table.values ++ ".val").toList :=
    combined_noOverlap isValues
  have valueClear : NoOverlap valuePlaceholder.toList (Table.values ++ ".val").toList :=
    value_noOverlap isValues
  constructor
  · rw [fillPlaceholders, String.toList_ofList,
      placeholders_noOverlap.apart.infix_replace_iff combinedKept.apart (by decide)]
    exact combinedClear.not_infix_replace (by decide) _
  · rw [fillPlaceholders, String.toList_ofList]
    exact valueClear.not_infix_replace (by decide) _

/-- The same with the vertex value filled in before the combined value. -/
def fillValueFirst (source context : String) : String :=
  let valued :=
    Text.replace valuePlaceholder.toList (Table.values ++ ".val").toList source.toList
  String.ofList (Text.replace combinedPlaceholder.toList (context ++ ".val").toList valued)

/-- Filling in leaves no placeholder behind and could as well go the other way round. Nothing is left
to fill in afterwards, whatever the context. -/
theorem filling_settles (source context : String) (held : isName context.toList = true) :
    ¬ combinedPlaceholder.toList <:+: (fillPlaceholders source context).toList ∧
      ¬ valuePlaceholder.toList <:+: (fillPlaceholders source context).toList ∧
      fillValueFirst source context = fillPlaceholders source context ∧
      ∀ other, fillPlaceholders (fillPlaceholders source context) other =
        fillPlaceholders source context := by
  obtain ⟨noCombined, noValue⟩ := settled_fillPlaceholders source context held
  have isValues : isName Table.values.toList = true := by decide
  have combinedKept : NoOverlap combinedPlaceholder.toList (Table.values ++ ".val").toList :=
    combined_noOverlap isValues
  have valueKept : NoOverlap valuePlaceholder.toList (context ++ ".val").toList := by
    rw [String.toList_append]
    exact value_noOverlap held
  refine ⟨noCombined, noValue, ?_, ?_⟩
  · rw [fillValueFirst, fillPlaceholders,
      placeholders_noOverlap.replace_comm valueKept combinedKept (by decide) (by decide)]
  · intro other
    rw [fillPlaceholders, replace_of_not_infix _ _ noCombined, replace_of_not_infix _ _ noValue,
      String.ofList_toList]

/-- A placeholder inside of another, with a context that would complete the outer one. -/
theorem filling_settles_nested :
    isName "get".toList = true ∧
      fillPlaceholders "getgetAggregationVal()Val()getVal()" "get" = "getget.valVal()next.val" ∧
      ¬ combinedPlaceholder.toList <:+: "getget.valVal()next.val".toList ∧
      ¬ valuePlaceholder.toList <:+: "getget.valVal()next.val".toList ∧
      fillValueFirst "getgetAggregationVal()Val()getVal()" "get" = "getget.valVal()next.val" ∧
      fillPlaceholders "getget.valVal()next.val" "other" = "getget.valVal()next.val" := by
  have isContext : isName "get".toList = true := by decide
  have filled : fillPlaceholders "getgetAggregationVal()Val()getVal()" "get" =
      "getget.valVal()next.val" := rfl
  obtain ⟨noCombined, noValue, same, again⟩ :=
    filling_settles "getgetAggregationVal()Val()getVal()" "get" isContext
  rw [filled] at noCombined noValue same again
  exact ⟨isContext, filled, noCombined, noValue, same, again "other"⟩

end Expression

end Superstep
