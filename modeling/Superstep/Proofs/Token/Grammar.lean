import Superstep.Expression

/-!
# The grammar of tokens

A token is well formed if its parts have the shapes that the parts of its kind have. The texts of the
well-formed tokens are the lexemes of expressions. The first character of a lexeme tells the family
that it belongs to, and only quoted texts have spaces or tabs in them.
-/

namespace Superstep

namespace Text

/-- A name: letters, digits and underscores, not starting with a digit. -/
def isName : List Char → Bool
  | [] => false
  | c :: cs => isNameStart c && cs.all isNameChar

/-- One digit or more. -/
def Digits (cs : List Char) : Prop := cs ≠ [] ∧ ∀ c ∈ cs, c.isDigit = true

/-- Nothing, or a point and digits. -/
inductive Fraction : List Char → Prop where
  | absent : Fraction []
  | present (digits : List Char) (held : Digits digits) : Fraction ('.' :: digits)

/-- Nothing, or a mark, perhaps a sign, and digits. -/
inductive Exponent : List Char → Prop where
  | absent : Exponent []
  | present (mark : Char) (sign digits : List Char) (marks : mark = 'e' ∨ mark = 'E')
      (signs : sign = [] ∨ sign = ['+'] ∨ sign = ['-']) (held : Digits digits) :
      Exponent (mark :: (sign ++ digits))

/-- Digits, perhaps a fraction, and perhaps an exponent. -/
inductive Numeral : List Char → Prop where
  | parts (whole fraction exponent : List Char) (held : Digits whole) (point : Fraction fraction)
      (scale : Exponent exponent) : Numeral (whole ++ (fraction ++ exponent))

theorem isNameStart_of_isDigit (c : Char) (digit : c.isDigit = true) : isNameStart c = false := by
  have digits : c.isDigit = (decide (48 ≤ c.val) && decide (c.val ≤ 57)) := rfl
  have letters : c.isAlpha = (decide (65 ≤ c.val ∧ c.val ≤ 90) ||
      decide (97 ≤ c.val) && decide (c.val ≤ 122)) := rfl
  have noUnderscore : c ≠ '_' := by
    rintro rfl
    exact absurd digit (by decide)
  rw [digits] at digit
  rw [isNameStart, letters]
  grind

theorem isNameChar_of_isNameStart (c : Char) (start : isNameStart c = true) :
    isNameChar c = true := by
  simp only [isNameStart, isNameChar, Char.isAlphanum] at start ⊢
  grind

theorem isNameChar_of_isName (cs : List Char) (held : isName cs = true) :
    ∀ c ∈ cs, isNameChar c = true := by
  intro c member
  cases cs with
  | nil => cases member
  | cons first others =>
    obtain ⟨start, rest⟩ := Bool.and_eq_true_iff.mp held
    rcases List.mem_cons.mp member with rfl | inside
    · exact isNameChar_of_isNameStart c start
    · exact List.all_eq_true.mp rest c inside

/-- No digit starts an exponent, so digits before it end where it starts. -/
theorem Exponent.stops {cs : List Char} (scale : Exponent cs) (c : Char)
    (first : cs.head? = some c) : c.isDigit = false := by
  cases scale with
  | absent => cases first
  | present mark sign digits marks =>
    obtain rfl := Option.some.inj first
    rcases marks with rfl | rfl <;> decide

theorem Numeral.head (cs : List Char) (numeral : Numeral cs) :
    ∃ c others, cs = c :: others ∧ c.isDigit = true := by
  cases numeral with
  | parts whole fraction exponent held =>
    cases whole with
    | nil => exact absurd rfl held.1
    | cons c others => exact ⟨c, others ++ (fraction ++ exponent), rfl, held.2 c List.mem_cons_self⟩

/-- A gap is no part of a name or a number. -/
theorem gap_apart (c : Char) (gap : Scan.isGap c = true) :
    isNameChar c = false ∧ c.isDigit = false ∧
      c ∉ ['.', '(', ')', 'e', 'E', '+', '-'] := by
  have either : c = ' ' ∨ c = '\t' := by simpa [Scan.isGap] using gap
  rcases either with rfl | rfl <;> decide

theorem Exponent.chars {cs : List Char} (scale : Exponent cs) (c : Char) (member : c ∈ cs) :
    c.isDigit = true ∨ c ∈ ['e', 'E', '+', '-'] := by
  cases scale with
  | absent => cases member
  | present mark sign digits marks signs held =>
    rcases List.mem_cons.mp member with rfl | rest
    · rcases marks with rfl | rfl <;> exact .inr (by decide)
    · rcases List.mem_append.mp rest with isSign | inside
      · right
        rcases signs with rfl | rfl | rfl
        · cases isSign
        · simp [List.mem_singleton.mp isSign]
        · simp [List.mem_singleton.mp isSign]
      · exact .inl (held.2 c inside)

theorem Fraction.chars {cs : List Char} (point : Fraction cs) (c : Char) (member : c ∈ cs) :
    c.isDigit = true ∨ c = '.' := by
  cases point with
  | absent => cases member
  | present digits held =>
    rcases List.mem_cons.mp member with isPoint | inside
    · exact .inr isPoint
    · exact .inl (held.2 c inside)

/-- The characters of a number. -/
theorem Numeral.chars {cs : List Char} (numeral : Numeral cs) (c : Char) (member : c ∈ cs) :
    c.isDigit = true ∨ c ∈ ['.', 'e', 'E', '+', '-'] := by
  cases numeral with
  | parts whole fraction exponent held point scale =>
    simp only [List.mem_append] at member
    rcases member with inWhole | inFraction | inExponent
    · exact .inl (held.2 c inWhole)
    · rcases point.chars c inFraction with digit | rfl
      · exact .inl digit
      · exact .inr (by decide)
    · rcases scale.chars c inExponent with digit | mark
      · exact .inl digit
      · exact .inr (List.mem_cons_of_mem _ mark)

theorem Numeral.gapless (cs : List Char) (numeral : Numeral cs) (c : Char)
    (gap : Scan.isGap c = true) : c ∉ cs := by
  intro member
  obtain ⟨_, noDigit, noMark⟩ := gap_apart c gap
  rcases numeral.chars c member with digit | mark
  · rw [digit] at noDigit
    cases noDigit
  · have inMarks : ['.', 'e', 'E', '+', '-'] ⊆ ['.', '(', ')', 'e', 'E', '+', '-'] := by decide
    exact noMark (inMarks mark)

/-- Where a run of characters ends within a text that it starts, if something else follows it: at the
end of the longest run. -/
theorem prefix_run (holds : Char → Bool) (run rest cs : List Char)
    (held : ∀ c ∈ run, holds c = true) (stops : ∀ c, rest.head? = some c → holds c = false)
    (front : run ++ rest <+: cs) :
    rest = [] ∧ run <+: cs.takeWhile holds ∨
      rest ≠ [] ∧ run = cs.takeWhile holds ∧ rest <+: cs.dropWhile holds := by
  obtain ⟨more, rfl⟩ := front
  rw [List.append_assoc, List.takeWhile_append_of_pos held, List.dropWhile_append_of_pos held]
  cases rest with
  | nil => exact .inl ⟨rfl, List.prefix_append _ _⟩
  | cons c rest =>
    have stop : holds c = false := stops c rfl
    right
    rw [List.cons_append, List.takeWhile_cons_of_neg (by simp [stop]),
      List.dropWhile_cons_of_neg (by simp [stop]), List.append_nil, ← List.cons_append]
    exact ⟨List.cons_ne_nil _ _, rfl, List.prefix_append _ _⟩

end Text

namespace Token

/-- The parts of a token have the shapes that its kind asks for. -/
def WellFormed : Token → Prop
  | .qualified table field => Text.isName table.toList = true ∧ Text.isName field.toList = true
  | .placeholder name => Text.isName name.toList = true
  | .number digits => Text.Numeral digits.toList
  | .quoted content => '\'' ∉ content.toList
  | .ident name => Expression.isIdentifier name = true
  | .keyword _ | .operator _ | .openParen | .closeParen | .comma => True

/-- The families that tokens fall into by their first character. -/
inductive Family where
  | named | number | quoted | operator | openParen | closeParen | comma
  deriving DecidableEq, Repr

def family : Token → Family
  | .qualified _ _ | .placeholder _ | .keyword _ | .ident _ => .named
  | .number _ => .number
  | .quoted _ => .quoted
  | .operator _ => .operator
  | .openParen => .openParen
  | .closeParen => .closeParen
  | .comma => .comma

def Family.ofChar? (c : Char) : Option Family :=
  if Text.isNameStart c then some .named
  else if c.isDigit then some .number
  else if c = '(' then some .openParen
  else if c = ')' then some .closeParen
  else if c = ',' then some .comma
  else if c = '\'' then some .quoted
  else if c ∈ ['=', '!', '<', '>', '+', '-', '*', '/', '%'] then some .operator
  else none

/-- The text of a token that starts with a name: the name, and perhaps a field or parentheses. -/
theorem WellFormed.named_text {token : Token} (formed : token.WellFormed)
    (named : token.family = .named) :
    ∃ name suffix, token.text.toList = name ++ suffix ∧ Text.isName name = true ∧
      (suffix = [] ∨ (∃ field, Text.isName field = true ∧ suffix = '.' :: field) ∨
        suffix = ['(', ')']) := by
  cases token with
  | qualified table field =>
    refine ⟨table.toList, '.' :: field.toList, ?_, formed.1, .inr (.inl ⟨_, formed.2, rfl⟩)⟩
    simp [text]
  | placeholder name =>
    refine ⟨name.toList, ['(', ')'], ?_, formed, .inr (.inr rfl)⟩
    simp [text]
  | keyword word =>
    refine ⟨word.text.toList, [], (List.append_nil _).symm, ?_, .inl rfl⟩
    cases word <;> decide
  | ident name =>
    refine ⟨name.toList, [], (List.append_nil _).symm, ?_, .inl rfl⟩
    have identifier : Expression.isIdentifier name = true := formed
    unfold Expression.isIdentifier at identifier
    cases spelled : name.toList with
    | nil =>
      rw [spelled] at identifier
      cases identifier
    | cons c cs =>
      rw [spelled] at identifier
      exact (Bool.and_eq_true_iff.mp identifier).1
  | number | quoted | operator | openParen | closeParen | comma => cases named

/-- The first character of a lexeme tells its family. -/
theorem WellFormed.head {token : Token} (formed : token.WellFormed) :
    ∃ c cs, token.text.toList = c :: cs ∧ Family.ofChar? c = some token.family := by
  have named : token.family = .named →
      ∃ c cs, token.text.toList = c :: cs ∧ Family.ofChar? c = some token.family := by
    intro family
    obtain ⟨name, suffix, spelled, isName, _⟩ := formed.named_text family
    cases name with
    | nil => cases isName
    | cons c cs =>
      have start : Text.isNameStart c = true := (Bool.and_eq_true_iff.mp isName).1
      exact ⟨c, cs ++ suffix, spelled, by rw [Family.ofChar?, if_pos start, family]⟩
  cases token with
  | qualified | placeholder | keyword | ident => exact named rfl
  | number digits =>
    obtain ⟨c, others, spelled, digit⟩ := Text.Numeral.head _ formed
    refine ⟨c, others, spelled, ?_⟩
    rw [Family.ofChar?, Text.isNameStart_of_isDigit c digit, digit]
    rfl
  | quoted content =>
    have quote : Family.ofChar? '\'' = some .quoted := by decide
    exact ⟨'\'', content.toList ++ ['\''], by simp [text], quote⟩
  | operator op => cases op <;> exact ⟨_, _, rfl, by decide⟩
  | openParen | closeParen | comma => exact ⟨_, _, rfl, by decide⟩

/-- Only quoted texts have gaps in them. -/
theorem WellFormed.quoted_of_gap {token : Token} (formed : token.WellFormed) (c : Char)
    (member : c ∈ token.text.toList) (gap : Scan.isGap c = true) : token.family = .quoted := by
  obtain ⟨noName, _, noMark⟩ := Text.gap_apart c gap
  have noNamed : token.family ≠ .named := by
    intro named
    obtain ⟨name, suffix, spelled, isName, shape⟩ := formed.named_text named
    have outside : ∀ word, Text.isName word = true → c ∉ word := by
      intro word held inside
      rw [Text.isNameChar_of_isName word held c inside] at noName
      cases noName
    rw [spelled, List.mem_append] at member
    rcases member with inName | inSuffix
    · exact outside name isName inName
    · rcases shape with rfl | ⟨field, isField, rfl⟩ | rfl
      · cases inSuffix
      · rcases List.mem_cons.mp inSuffix with isPoint | inField
        · exact noMark (by simp [isPoint])
        · exact outside field isField inField
      · have inMarks : ['(', ')'] ⊆ ['.', '(', ')', 'e', 'E', '+', '-'] := by decide
        exact noMark (inMarks inSuffix)
  cases token with
  | qualified | placeholder | keyword | ident => exact absurd rfl noNamed
  | number digits => exact absurd member (Text.Numeral.gapless _ formed c gap)
  | quoted => rfl
  | operator op =>
    have none : op.text.toList.all (!Scan.isGap ·) = true := by cases op <;> decide
    have apart := List.all_eq_true.mp none c member
    rw [gap] at apart
    cases apart
  | openParen | closeParen | comma =>
    obtain rfl := List.mem_singleton.mp member
    cases gap

end Token

end Superstep
