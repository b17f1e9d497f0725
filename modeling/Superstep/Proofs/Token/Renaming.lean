import Superstep.Proofs.Token.Joining

/-!
# Renaming in a text

The planner renames tables and qualifies names in the middle of a text, where nothing keeps a token
apart from its neighbours. The changed text is still cut up at the same places: before a changed
token both texts go on with a name, so a lexeme that would reach into the new one would have reached
into the old one too. The one exception is a number in front of a name with `e` or `E` at its start,
which could become an exponent.
-/

namespace Superstep

/-- A text that goes one character beyond the front of another reaches behind it. -/
theorem prefix_snoc_append {front whole rest : List Char} {c : Char}
    (reaches : front ++ [c] <+: whole ++ rest) :
    front ++ [c] <+: whole ∨ ∃ more, front = whole ++ more ∧ more ++ [c] <+: rest := by
  by_cases short : front.length < whole.length
  · left
    apply List.prefix_of_prefix_length_le reaches (List.prefix_append whole rest)
    rw [List.length_append, List.length_singleton]
    omega
  · right
    have within : front <+: whole ++ rest := (List.prefix_append front [c]).trans reaches
    obtain ⟨more, rfl⟩ :=
      List.prefix_of_prefix_length_le (List.prefix_append whole rest) within (by omega)
    rw [List.append_assoc, List.prefix_append_right_inj] at reaches
    exact ⟨more, rfl, reaches⟩

theorem prefix_or_reaches {text common rest : List Char} {c : Char}
    (front : text <+: common ++ c :: rest) : text <+: common ∨ common ++ [c] <+: text := by
  by_cases short : text.length ≤ common.length
  · exact .inl (List.prefix_of_prefix_length_le front (List.prefix_append _ _) short)
  · right
    apply List.prefix_of_prefix_length_le _ front
    · rw [List.length_append, List.length_singleton]
      omega
    · exact ⟨rest, by rw [List.append_assoc, List.singleton_append]⟩

namespace Text

theorem isName_append (name more : List Char) (held : isName name = true)
    (goesOn : ∀ c ∈ more, isNameChar c = true) : isName (name ++ more) = true := by
  cases name with
  | nil => cases held
  | cons c cs =>
    obtain ⟨start, rest⟩ := Bool.and_eq_true_iff.mp held
    rw [List.cons_append, isName, start, List.all_append, rest, List.all_eq_true.mpr goesOn]
    rfl

/-- A name can go on with another letter at every place. -/
theorem isName_exchange (front word : List Char) (a b : Char) (held : isName word = true)
    (reaches : front ++ [b] <+: word) (start : isNameStart a = true) :
    isName (front ++ [a]) = true := by
  cases front with
  | nil => simp [isName, start]
  | cons c cs =>
    apply isName_append
    · obtain ⟨more, rfl⟩ := reaches
      obtain ⟨first, rest⟩ := Bool.and_eq_true_iff.mp held
      simp only [List.append_eq, List.append_assoc, List.all_append, Bool.and_eq_true] at rest
      rw [isName, first, rest.1]
      rfl
    · intro d member
      rw [List.mem_singleton.mp member]
      exact isNameChar_of_isNameStart a start

/-- The letters in a number mark its exponent. -/
theorem Numeral.mark_of_isNameStart {cs : List Char} (numeral : Numeral cs) (c : Char)
    (member : c ∈ cs) (start : isNameStart c = true) : c = 'e' ∨ c = 'E' := by
  rcases numeral.chars c member with digit | mark
  · rw [isNameStart_of_isDigit c digit] at start
    cases start
  · simp only [List.mem_cons, List.not_mem_nil, or_false] at mark
    rcases mark with rfl | small | capital | rfl | rfl
    · exact absurd start (by decide)
    · exact .inl small
    · exact .inr capital
    · exact absurd start (by decide)
    · exact absurd start (by decide)

/-- What stands before the mark of an exponent is a number. -/
theorem Numeral.before_mark {cs front : List Char} {mark : Char} (numeral : Numeral cs)
    (start : isNameStart mark = true) (reaches : front ++ [mark] <+: cs) : Numeral front := by
  have noDigit : mark.isDigit = false := by
    cases digit : mark.isDigit with
    | false => rfl
    | true =>
      rw [isNameStart_of_isDigit mark digit] at start
      cases start
  cases numeral with
  | parts whole fraction exponent held point scale =>
    rcases prefix_snoc_append reaches with inWhole | ⟨behind, rfl, later⟩
    · have digit := held.2 mark (inWhole.subset (by simp))
      rw [noDigit] at digit
      cases digit
    rcases prefix_snoc_append later with inFraction | ⟨more, rfl, inExponent⟩
    · rcases point.chars mark (inFraction.subset (by simp)) with digit | rfl
      · rw [noDigit] at digit
        cases digit
      · exact absurd start (by decide)
    cases scale with
    | absent => simp at inExponent
    | present first sign digits marks signs some =>
      cases more with
      | nil =>
        rw [List.append_nil]
        have numeral := Numeral.parts whole fraction [] held point .absent
        rwa [List.append_nil] at numeral
      | cons d more =>
        have member : mark ∈ sign ++ digits :=
          (List.cons_prefix_cons.mp inExponent).2.subset (by simp)
        rcases List.mem_append.mp member with inSign | inDigits
        · rcases signs with rfl | rfl | rfl
          · cases inSign
          · rw [List.mem_singleton.mp inSign] at start
            exact absurd start (by decide)
          · rw [List.mem_singleton.mp inSign] at start
            exact absurd start (by decide)
        · rw [some.2 mark inDigits] at noDigit
          cases noDigit

/-- The point in a number stands behind digits. -/
theorem Numeral.before_point {cs front : List Char} (numeral : Numeral cs)
    (reaches : front ++ ['.'] <+: cs) : ∀ c ∈ front, c.isDigit = true := by
  have noDigit : '.'.isDigit = false := by decide
  cases numeral with
  | parts whole fraction exponent held point scale =>
    have noPoint : '.' ∉ exponent := by
      intro member
      rcases scale.chars '.' member with digit | mark
      · rw [noDigit] at digit
        cases digit
      · exact absurd mark (by decide)
    rcases prefix_snoc_append reaches with inWhole | ⟨more, rfl, behind⟩
    · have digit := held.2 '.' (inWhole.subset (by simp))
      rw [noDigit] at digit
      cases digit
    · cases point with
      | absent => exact absurd (behind.subset (by simp)) noPoint
      | present digits some =>
        cases more with
        | nil => simpa using held.2
        | cons d more =>
          have later : '.' ∈ digits ++ exponent :=
            (List.cons_prefix_cons.mp behind).2.subset (by simp)
          rcases List.mem_append.mp later with inDigits | inExponent
          · rw [some.2 '.' inDigits] at noDigit
            cases noDigit
          · exact absurd inExponent noPoint

end Text

namespace Token

open Text

/-- A lexeme that starts with a name can go on with another letter wherever it goes on with one. -/
theorem WellFormed.named_exchange {other : Token} (formed : other.WellFormed)
    (named : other.family = .named) (front : List Char) (a b : Char)
    (startsNew : isNameStart a = true) (startsOld : isNameStart b = true)
    (reaches : front ++ [b] <+: other.text.toList) :
    ∃ changed : Token, changed.WellFormed ∧ changed.text.toList = front ++ [a] := by
  obtain ⟨name, suffix, spelled, held, shape⟩ := formed.named_text named
  rw [spelled] at reaches
  rcases prefix_snoc_append reaches with inName | ⟨more, rfl, behind⟩
  · have isName := isName_exchange front name a b held inName startsNew
    exact ⟨Scan.word (front ++ [a]), Scan.word_formed _ isName, Scan.word_text _⟩
  · rcases shape with rfl | ⟨field, isField, rfl⟩ | rfl
    · simp at behind
    · cases more with
      | nil =>
        obtain ⟨rfl, _⟩ := List.cons_prefix_cons.mp behind
        exact absurd startsOld (by decide)
      | cons d more =>
        obtain ⟨rfl, inField⟩ := List.cons_prefix_cons.mp behind
        have isName := isName_exchange more field a b isField inField startsNew
        refine ⟨.qualified (String.ofList name) (String.ofList (more ++ [a])), ?_, ?_⟩
        · exact ⟨by rwa [String.toList_ofList], by rwa [String.toList_ofList]⟩
        · simp [text]
    · have call : b ∈ ['(', ')'] := behind.subset (by simp)
      simp only [List.mem_cons, List.not_mem_nil, or_false] at call
      rcases call with rfl | rfl
      · exact absurd startsOld (by decide)
      · exact absurd startsOld (by decide)

/-- What stands before the dot in a lexeme that starts with a name is the name. -/
theorem WellFormed.named_before_dot {other : Token} (formed : other.WellFormed)
    (named : other.family = .named) (front : List Char)
    (reaches : front ++ ['.'] <+: other.text.toList) : isName front = true := by
  have noDot : ∀ word, isName word = true → '.' ∉ word := by
    intro word held member
    exact absurd (isNameChar_of_isName word held '.' member) (by decide)
  obtain ⟨name, suffix, spelled, held, shape⟩ := formed.named_text named
  rw [spelled] at reaches
  rcases prefix_snoc_append reaches with inName | ⟨more, rfl, behind⟩
  · exact absurd (inName.subset (by simp)) (noDot name held)
  · rcases shape with rfl | ⟨field, isField, rfl⟩ | rfl
    · simp at behind
    · cases more with
      | nil => rwa [List.append_nil]
      | cons d more =>
        have inField := (List.cons_prefix_cons.mp behind).2
        exact absurd (inField.subset (by simp)) (noDot field isField)
    · have call : '.' ∈ ['(', ')'] := behind.subset (by simp)
      exact absurd call (by decide)

/-- A lexeme that goes on behind another one with a letter or a dot is named or a number. -/
theorem WellFormed.named_or_number {token other : Token} (formed : token.WellFormed)
    (otherFormed : other.WellFormed) (common : List Char) (c : Char)
    (next : isNameStart c = true ∨ c = '.')
    (reaches : token.text.toList ++ common ++ [c] <+: other.text.toList) :
    other.family = .named ∨ ∃ digits, other = .number digits := by
  have member : c ∈ other.text.toList := reaches.subset (by simp)
  have noMark : c ∉ ['=', '!', '<', '>', '+', '-', '*', '/', '%', '(', ')', ','] := by
    intro mark
    rcases next with start | rfl
    · simp only [List.mem_cons, List.not_mem_nil, or_false] at mark
      rcases mark with rfl | rfl | rfl | rfl | rfl | rfl | rfl | rfl | rfl | rfl | rfl | rfl <;>
        exact absurd start (by decide)
    · exact absurd mark (by decide)
  cases other with
  | qualified | placeholder | keyword | ident => exact .inl rfl
  | number digits => exact .inr ⟨digits, rfl⟩
  | quoted content =>
    have inside : token.text.toList <+: (Token.quoted content).text.toList := by
      refine List.IsPrefix.trans ⟨common ++ [c], ?_⟩ reaches
      rw [List.append_assoc]
    have bound := formed.quoted_of_prefix otherFormed rfl inside
    have longer := reaches.length_le
    simp only [List.length_append, List.length_singleton] at longer
    omega
  | operator op =>
    have marks : op.text.toList ⊆ ['=', '!', '<', '>', '+', '-', '*', '/', '%', '(', ')', ','] := by
      cases op <;> decide
    exact absurd (marks member) noMark
  | openParen | closeParen | comma =>
    obtain rfl := List.mem_singleton.mp member
    exact absurd (by decide) noMark

end Token

/-- A text before and after names in it were changed. The two agree up to the first change. -/
inductive Renamed : List Char → List Char → Prop where
  | same (text : List Char) : Renamed text text
  /-- One name stands in the place of another, and no number can take it for its exponent. -/
  | other (common : List Char) (a b : Char) (rest more : List Char)
      (old : Text.isNameStart a = true) (new : Text.isNameStart b = true)
      (noExponent : b ≠ 'e' ∧ b ≠ 'E') : Renamed (common ++ a :: rest) (common ++ b :: more)
  /-- A name takes a field. -/
  | field (common name rest more : List Char) (held : Text.isName name = true) :
      Renamed (common ++ (name ++ rest)) (common ++ (name ++ '.' :: more))

namespace Renamed

theorem append {old new : List Char} (renamed : Renamed old new) (front : List Char) :
    Renamed (front ++ old) (front ++ new) := by
  cases renamed with
  | same => exact .same _
  | other common a b rest more old new noExponent =>
    rw [← List.append_assoc, ← List.append_assoc]
    exact .other _ a b rest more old new noExponent
  | field common name rest more held =>
    rw [← List.append_assoc, ← List.append_assoc front]
    exact .field _ name rest more held

/-- A text that does not go on with a name does not do so when its names are changed. -/
theorem stops {old new : List Char} (renamed : Renamed old new)
    (stop : ∀ c, old.head? = some c → Text.isNameChar c = false) :
    ∀ c, new.head? = some c → Text.isNameChar c = false := by
  cases renamed with
  | same => exact stop
  | other common a b rest more old =>
    cases common with
    | nil =>
      have noName := stop a rfl
      rw [Text.isNameChar_of_isNameStart a old] at noName
      cases noName
    | cons d common => exact stop
  | field common name rest more held =>
    cases common with
    | nil =>
      cases name with
      | nil => cases held
      | cons d name => exact stop
    | cons d common => exact stop

end Renamed

namespace Token

open Text

/-- No lexeme takes in the longest one and some of what follows it. -/
theorem Longest.not_extended {token lexeme : Token} {source rest : List Char}
    (longest : token.Longest source rest) (formed : lexeme.WellFormed) (extra more : List Char)
    (spelled : lexeme.text.toList = token.text.toList ++ extra) (within : rest = extra ++ more) :
    extra = [] := by
  have front : lexeme.text.toList ++ more = source := by
    rw [spelled, longest.split, within, List.append_assoc]
  have bound := longest.longest lexeme formed ⟨more, front⟩
  rw [spelled, List.length_append] at bound
  exact List.length_eq_zero_iff.mp (by omega)

/-- Where names are exchanged, only a number can come to reach into the new name, and only if it
stands right before it. -/
theorem Longest.number_of_reached {token other : Token} {source common behind : List Char}
    {a b : Char} (longest : token.Longest source (common ++ a :: behind))
    (formed : other.WellFormed) (old : isNameStart a = true) (new : isNameStart b = true)
    (reaches : token.text.toList ++ common ++ [b] <+: other.text.toList) :
    common = [] ∧ (∃ digits, token = .number digits) ∧ ∃ digits, other = .number digits := by
  rcases longest.formed.named_or_number formed common b (.inl new) reaches with
    named | ⟨digits, rfl⟩
  · obtain ⟨lexeme, lexemeFormed, spelled⟩ := formed.named_exchange named _ a b old new reaches
    rw [List.append_assoc] at spelled
    have none := longest.not_extended lexemeFormed (common ++ [a]) behind spelled (by simp)
    simp at none
  · have numeral := Numeral.before_mark formed new reaches
    have lexeme : (Token.number (String.ofList (token.text.toList ++ common))).WellFormed := by
      change Numeral (String.ofList _).toList
      rwa [String.toList_ofList]
    have none := longest.not_extended lexeme common (a :: behind) (String.toList_ofList) rfl
    subst none
    rw [List.append_nil] at lexeme
    refine ⟨rfl, ⟨_, longest.formed.text_injective lexeme ?_⟩, digits, rfl⟩
    rw [text, String.toList_ofList]

/-- If the old text goes on with a name, no lexeme reaches from the token into another name there. -/
theorem Longest.not_reached_name {token other : Token} {source common behind : List Char}
    {a b : Char} (longest : token.Longest source (common ++ a :: behind))
    (formed : other.WellFormed) (old : isNameStart a = true) (new : isNameStart b = true)
    (noExponent : b ≠ 'e' ∧ b ≠ 'E') :
    ¬ token.text.toList ++ common ++ [b] <+: other.text.toList := by
  intro reaches
  obtain ⟨_, _, digits, rfl⟩ := longest.number_of_reached formed old new reaches
  rcases Numeral.mark_of_isNameStart formed b (reaches.subset (by simp)) new with mark | mark
  · exact noExponent.1 mark
  · exact noExponent.2 mark

/-- If the old text goes on with a name, no lexeme reaches from the token to a dot behind the name. -/
theorem Longest.not_reached_dot {token other : Token} {source common name behind : List Char}
    (longest : token.Longest source (common ++ (name ++ behind))) (formed : other.WellFormed)
    (held : isName name = true) :
    ¬ token.text.toList ++ (common ++ name) ++ ['.'] <+: other.text.toList := by
  intro reaches
  cases name with
  | nil => cases held
  | cons c name =>
    rcases longest.formed.named_or_number formed _ '.' (.inr rfl) reaches with
      named | ⟨digits, rfl⟩
    · have isName := formed.named_before_dot named _ reaches
      have none := longest.not_extended (Scan.word_formed _ isName) (common ++ c :: name) behind
        (Scan.word_text _) (List.append_assoc _ _ _).symm
      simp at none
    · have digit : c.isDigit = true := Numeral.before_point formed reaches c (by simp)
      obtain ⟨start, _⟩ := Bool.and_eq_true_iff.mp held
      rw [isNameStart_of_isDigit c digit] at start
      cases start

/-- A lexeme that ends where the text behind the token is unchanged is no longer than the token. -/
theorem Longest.length_le {token other : Token} {source common behind : List Char}
    (longest : token.Longest source (common ++ behind)) (formed : other.WellFormed)
    (short : other.text.toList <+: token.text.toList ++ common) :
    other.text.toList.length ≤ token.text.toList.length := by
  apply longest.longest other formed
  apply short.trans
  exact ⟨behind, by rw [longest.split, List.append_assoc]⟩

/-- A token stays the longest lexeme when names behind it are changed. -/
theorem Longest.renamed {token : Token} {source rest changed : List Char}
    (longest : token.Longest source rest) (renamed : Renamed rest changed) :
    token.Longest (token.text.toList ++ changed) changed := by
  refine ⟨longest.formed, rfl, ?_⟩
  intro other formed front
  -- A lexeme that ends before the first change is one of the old text.
  cases renamed with
  | same =>
    rw [← longest.split] at front
    exact longest.longest other formed front
  | other common a b behind more old new noExponent =>
    rw [← List.append_assoc] at front
    rcases prefix_or_reaches front with short | reaches
    · exact longest.length_le formed short
    · exact absurd reaches (longest.not_reached_name formed old new noExponent)
  | field common name behind more held =>
    rw [← List.append_assoc common, ← List.append_assoc] at front
    rcases prefix_or_reaches front with short | reaches
    · rw [← List.append_assoc] at longest
      exact longest.length_le formed short
    · exact absurd reaches (longest.not_reached_dot formed held)

/-- What follows a name or a qualified name does not go on with it. -/
theorem Longest.stops {token : Token} {source rest : List Char}
    (longest : token.Longest source rest)
    (named : (∃ name, token = .ident name) ∨ ∃ table field, token = .qualified table field) :
    ∀ c, rest.head? = some c → isNameChar c = false := by
  intro c first
  by_contra goesOn
  rw [Bool.not_eq_false] at goesOn
  have all : ∀ d ∈ [c], isNameChar d = true := by simpa using goesOn
  obtain ⟨more, within⟩ : ∃ more, rest = [c] ++ more := by
    cases rest with
    | nil => cases first
    | cons d more => exact ⟨more, by rw [Option.some.inj first, List.singleton_append]⟩
  rcases named with ⟨name, rfl⟩ | ⟨table, field, rfl⟩
  · have isName := isName_append _ [c] (Scan.word_of_identifier name longest.formed).1 all
    have none := longest.not_extended (Scan.word_formed _ isName) [c] more (Scan.word_text _) within
    cases none
  · have isName := isName_append _ [c] longest.formed.2 all
    have formed : (Token.qualified table (String.ofList (field.toList ++ [c]))).WellFormed :=
      ⟨longest.formed.1, by rwa [String.toList_ofList]⟩
    have none := longest.not_extended formed [c] more (by simp [text]) within
    cases none

/-- The ways in which the planner changes a token. -/
inductive Renames : Token → Token → Prop where
  | keep (token : Token) : Renames token token
  | repoint (table target field : String) (held : isName target.toList = true)
      (noExponent : ∀ c, target.toList.head? = some c → c ≠ 'e' ∧ c ≠ 'E') :
      Renames (.qualified table field) (.qualified target field)
  | qualify (name field : String) (held : isName field.toList = true) :
      Renames (.ident name) (.qualified name field)

/-- A renamed token in front of a renamed text makes a renamed text. -/
theorem Renames.text {old new : Token} (renames : Renames old new) (formed : old.WellFormed)
    {rest changed : List Char} (renamed : Renamed rest changed) :
    Renamed (old.text.toList ++ rest) (new.text.toList ++ changed) := by
  cases renames with
  | keep => exact renamed.append _
  | repoint table target field held noExponent =>
    have isTable : isName table.toList = true := formed.1
    cases spelled : table.toList with
    | nil =>
      rw [spelled] at isTable
      cases isTable
    | cons a as =>
      cases again : target.toList with
      | nil =>
        rw [again] at held
        cases held
      | cons b bs =>
        rw [spelled] at isTable
        rw [again] at held noExponent
        have exchanged := Renamed.other [] a b (as ++ '.' :: (field.toList ++ rest))
          (bs ++ '.' :: (field.toList ++ changed)) (Bool.and_eq_true_iff.mp isTable).1
          (Bool.and_eq_true_iff.mp held).1 (noExponent b rfl)
        simpa [Token.text, spelled, again] using exchanged
  | qualify name field held =>
    have isName := (Scan.word_of_identifier name formed).1
    have grown := Renamed.field [] name.toList rest (field.toList ++ changed) isName
    simpa [Token.text] using grown

end Token

theorem Scanned.tokens_mapTokens (change : Token → Token) (scanned : Scanned) :
    (scanned.mapTokens change).tokens = scanned.tokens.map change := by
  simp [Scanned.tokens, Scanned.mapTokens]

namespace Scan

open Text Token

/-- A qualified name is read back if no further character of a name follows it. -/
theorem token_qualified (table field : String) (rest : List Char)
    (formed : (Token.qualified table field).WellFormed)
    (stops : ∀ c, rest.head? = some c → isNameChar c = false) :
    token ((Token.qualified table field).text.toList ++ rest) =
      .ok (.qualified table field, rest) := by
  have spelled : (Token.qualified table field).text.toList ++ rest =
      table.toList ++ '.' :: (field.toList ++ rest) := by
    simp [Token.text]
  have found := name?_append table.toList ('.' :: (field.toList ++ rest)) formed.1
    (by simp; decide)
  rw [spelled, token_of_name found, named, name?_append field.toList rest formed.2 stops]
  simp only [String.ofList_toList]

/-- A changed token is read where the old one was read, whatever is changed behind it. -/
theorem token_renamed {source rest changed : List Char} {old new : Token}
    (longest : old.Longest source rest) (renames : Renames old new) (renamed : Renamed rest changed)
    (noDot : changed.head? ≠ some '.') :
    token (new.text.toList ++ changed) = .ok (new, changed) := by
  cases renames with
  | keep => exact token_of_longest (longest.renamed renamed) noDot
  | repoint table target field held noExponent =>
    have stops := renamed.stops (longest.stops (.inr ⟨table, field, rfl⟩))
    exact token_qualified target field changed ⟨held, longest.formed.2⟩ stops
  | qualify name field held =>
    have stops := renamed.stops (longest.stops (.inl ⟨name, rfl⟩))
    have isName := (word_of_identifier name longest.formed).1
    exact token_qualified name field changed ⟨isName, held⟩ stops

theorem text_cons (first : Lexeme) (others : List Lexeme) (tail : List Char) :
    Scanned.text ⟨first :: others, tail⟩ =
      first.gap ++ (first.token.text.toList ++ Scanned.text ⟨others, tail⟩) := by
  simp [Scanned.text, Lexeme.text]

/-- Renaming tokens of an expression makes a renamed text. -/
theorem renamed_text (change : Token → Token) (scanned : Scanned)
    (formed : ∀ token ∈ scanned.tokens, token.WellFormed)
    (renames : ∀ token ∈ scanned.tokens, Renames token (change token)) :
    Renamed scanned.text (scanned.mapTokens change).text := by
  obtain ⟨lexemes, tail⟩ := scanned
  induction lexemes with
  | nil => exact .same _
  | cons first others ih =>
    obtain ⟨here, behind⟩ := List.forall_mem_cons.mp formed
    obtain ⟨renamesHere, renamesBehind⟩ := List.forall_mem_cons.mp renames
    have later := ih behind renamesBehind
    have changed : (Scanned.mapTokens change ⟨first :: others, tail⟩).text =
        first.gap ++ ((change first.token).text.toList ++
          (Scanned.mapTokens change ⟨others, tail⟩).text) := text_cons _ _ _
    rw [text_cons, changed]
    exact (renamesHere.text here later).append first.gap

/-- A changed text is cut up into the changed tokens, with the same gaps between them. -/
theorem lexemes_mapTokens {cs : List Char} {scanned : Scanned} (read : lexemes cs = .ok scanned)
    (change : Token → Token) (renames : ∀ token ∈ scanned.tokens, Renames token (change token)) :
    lexemes (scanned.mapTokens change).text = .ok (scanned.mapTokens change) := by
  fun_induction lexemes cs generalizing scanned with
  | case1 cs empty =>
    cases read
    exact lexemes_gap cs (List.all_eq_true.mpr (List.dropWhile_eq_nil_iff.mp empty))
  | case2 => cases read
  | case3 => cases read
  | case4 cs c rest front first after found scanned later ih =>
    cases read
    obtain ⟨renamesHere, renamesBehind⟩ := List.forall_mem_cons.mp renames
    have reread := ih later renamesBehind
    have renamed := renamed_text change scanned (lexemes_munch later).formed renamesBehind
    rw [(lexemes_lossless later).1] at renamed
    have here := token_renamed (token_longest found) renamesHere renamed
      (lexemes_munch reread).head_ne_dot
    have blank : (cs.takeWhile isGap).all isGap = true :=
      List.all_eq_true.mpr fun _ member => List.mem_takeWhile_imp member
    have whole := lexemes_gap_append blank here reread
    rwa [← text_cons ⟨cs.takeWhile isGap, change first⟩] at whole

end Scan

namespace Expression

theorem scan_mapTokens {source : String} {scanned : Scanned} (scans : scan source = .ok scanned)
    (change : Token → Token)
    (renames : ∀ token ∈ scanned.tokens, Token.Renames token (change token)) :
    scan (String.ofList (scanned.mapTokens change).text) = .ok (scanned.mapTokens change) := by
  rw [scan_ok_iff] at scans
  rw [scan_ok_iff, String.toList_ofList]
  exact Scan.lexemes_mapTokens scans change renames

/-- The text with a table renamed is cut up like the text, with that table renamed in its tokens. -/
theorem scan_repoint {expression : String} {scanned : Scanned}
    (scans : scan expression = .ok scanned) (source target : String)
    (held : Text.isName target.toList = true)
    (noExponent : ∀ c, target.toList.head? = some c → c ≠ 'e' ∧ c ≠ 'E') :
    scan (scanned.repoint source target) =
      .ok (scanned.mapTokens (Token.repoint source target)) := by
  apply scan_mapTokens scans
  intro token _
  cases token with
  | qualified table field =>
    by_cases same : table = source
    · rw [Token.repoint, if_pos same]
      exact .repoint table target field held noExponent
    · rw [Token.repoint, if_neg same]
      exact .keep _
  | _ => exact .keep _

/-- The text with a bare name qualified is cut up like the text, with that name qualified. -/
theorem scan_qualify {expression : String} {scanned : Scanned}
    (scans : scan expression = .ok scanned) (name field : String)
    (held : Text.isName field.toList = true) :
    scan (scanned.qualify name field) = .ok (scanned.mapTokens (Token.qualify name field)) := by
  apply scan_mapTokens scans
  intro token _
  cases token with
  | ident other =>
    by_cases same : other = name
    · rw [Token.qualify, if_pos same]
      exact .qualify other field held
    · rw [Token.qualify, if_neg same]
      exact .keep _
  | _ => exact .keep _

end Expression

end Superstep
