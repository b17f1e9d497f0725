import Superstep.Proofs.Outcome
import Superstep.Proofs.Token.Readers

/-!
# The scanner takes the longest lexeme

The first character of a text decides which reader is asked, so the scanner takes the longest lexeme
at every place. `Munch` says what this comes to for a whole text without mentioning a reader: skip a
gap, take the longest lexeme, and go on behind it until nothing is left. The scanner succeeds on
exactly those texts and finds exactly those tokens.
-/

namespace Superstep

namespace Token

/-- The token is the longest lexeme at the front of the source, and `rest` is what follows it. -/
structure Longest (token : Token) (source rest : List Char) : Prop where
  formed : token.WellFormed
  split : source = token.text.toList ++ rest
  longest : ∀ other : Token, other.WellFormed → other.text.toList <+: source →
    other.text.toList.length ≤ token.text.toList.length

/-- All lexemes at the front of a source are of one family. -/
theorem WellFormed.family_of_prefix {token : Token} (formed : token.WellFormed) (c : Char)
    (cs : List Char) (front : token.text.toList <+: c :: cs) :
    Family.ofChar? c = some token.family := by
  obtain ⟨first, others, spelled, family⟩ := formed.head
  rw [spelled] at front
  rw [← (List.cons_prefix_cons.mp front).1]
  exact family

/-- A lexeme is the longest one if it is so within its family. -/
theorem Longest.of_family {token : Token} {c : Char} {cs rest : List Char}
    (formed : token.WellFormed) (split : c :: cs = token.text.toList ++ rest)
    (longest : ∀ other : Token, other.WellFormed → other.family = token.family →
      other.text.toList <+: c :: cs → other.text.toList.length ≤ token.text.toList.length) :
    token.Longest (c :: cs) rest := by
  refine ⟨formed, split, ?_⟩
  intro other otherFormed front
  have own := formed.family_of_prefix c cs (split ▸ List.prefix_append _ _)
  have others := otherFormed.family_of_prefix c cs front
  exact longest other otherFormed (Option.some.inj (others.symm.trans own)) front

theorem Longest.of_alone {token : Token} {c : Char} {cs : List Char} (formed : token.WellFormed)
    (spelled : token.text.toList = [c])
    (alone : ∀ other : Token, other.family = token.family → other = token) :
    token.Longest (c :: cs) cs := by
  refine .of_family formed (by rw [spelled, List.singleton_append]) ?_
  intro other _ same _
  rw [alone other same]

end Token

namespace Scan

open Text Token

/-- A lexeme at a place where a name stands is part of the name, or the name with what follows it. -/
theorem lexeme_at_name {c : Char} {cs name behind : List Char}
    (found : name? (c :: cs) = some (name, behind)) (other : Token) (formed : other.WellFormed)
    (front : other.text.toList <+: c :: cs) :
    other.text.toList.length ≤ name.length ∨
      (∃ field, isName field = true ∧ '.' :: field <+: behind ∧
        other.text.toList.length = name.length + 1 + field.length) ∨
      ['(', ')'] <+: behind ∧ other.text.toList.length = name.length + 2 := by
  have family := formed.family_of_prefix c cs front
  rw [Family.ofChar?, if_pos (name?_start found), Option.some.injEq] at family
  obtain ⟨word, suffix, spelled, isWord, shape⟩ := formed.named_text family.symm
  have stops : ∀ d, suffix.head? = some d → isNameChar d = false := by
    intro d first
    rcases shape with rfl | ⟨field, _, rfl⟩ | rfl
    · cases first
    · obtain rfl := Option.some.inj first
      decide
    · obtain rfl := Option.some.inj first
      decide
  rw [spelled] at front ⊢
  rw [List.length_append]
  obtain ⟨read, after, again, either⟩ := name?_of_prefix word suffix _ isWord stops front
  rw [found, Option.some.injEq, Prod.mk.injEq] at again
  obtain ⟨rfl, rfl⟩ := again
  rcases either with ⟨empty, run⟩ | ⟨some, same, inside⟩
  · have length := run.length_le
    rw [empty, List.length_nil]
    omega
  · rw [same]
    rcases shape with empty | ⟨field, isField, rfl⟩ | rfl
    · exact absurd empty some
    · refine .inr (.inl ⟨field, isField, inside, ?_⟩)
      rw [List.length_cons]
      omega
    · exact .inr (.inr ⟨inside, rfl⟩)

section Named

variable {c : Char} {cs name behind : List Char} (found : name? (c :: cs) = some (name, behind))

include found

/-- A name, a dot and a field are one lexeme, and none that starts there is longer. -/
theorem qualified_longest {field rest : List Char} (dot : behind = '.' :: (field ++ rest))
    (inside : name? (field ++ rest) = some (field, rest)) :
    (Token.qualified (String.ofList name) (String.ofList field)).Longest (c :: cs) rest := by
  obtain ⟨isName, cut⟩ := name?_ok found
  have isField := (name?_ok inside).1
  refine ⟨?_, ?_, ?_⟩
  · exact ⟨by rwa [String.toList_ofList], by rwa [String.toList_ofList]⟩
  · simp [cut, dot, text]
  · intro other formed front
    have length : (Token.qualified (String.ofList name) (String.ofList field)).text.toList.length =
        name.length + 1 + field.length := by
      simp [text]
      omega
    rw [length]
    rcases lexeme_at_name found other formed front with
      short | ⟨longer, isLonger, after, same⟩ | ⟨after, _⟩
    · omega
    · rw [dot] at after
      obtain ⟨_, _, again, bound⟩ :=
        name?_longest longer _ isLonger (List.cons_prefix_cons.mp after).2
      rw [inside, Option.some.injEq, Prod.mk.injEq] at again
      obtain ⟨rfl, _⟩ := again
      omega
    · rw [dot] at after
      exact absurd (List.cons_prefix_cons.mp after).1 (by decide)

/-- A name with an empty pair of parentheses is one lexeme, and none that starts there is longer. -/
theorem placeholder_longest {rest : List Char} (call : behind = '(' :: ')' :: rest) :
    (Token.placeholder (String.ofList name)).Longest (c :: cs) rest := by
  obtain ⟨isName, cut⟩ := name?_ok found
  refine ⟨?_, ?_, ?_⟩
  · change Text.isName (String.ofList name).toList = true
    rwa [String.toList_ofList]
  · simp [cut, call, text]
  · intro other formed front
    have length : (Token.placeholder (String.ofList name)).text.toList.length =
        name.length + 2 := by
      simp [text]
    rw [length]
    rcases lexeme_at_name found other formed front with short | ⟨_, _, after, _⟩ | ⟨_, same⟩
    · omega
    · rw [call] at after
      exact absurd (List.cons_prefix_cons.mp after).1 (by decide)
    · omega

/-- A name that neither a field nor parentheses follow stands alone. -/
theorem word_longest (noField : ∀ field, isName field = true → ¬ '.' :: field <+: behind)
    (noCall : ¬ ['(', ')'] <+: behind) : (word name).Longest (c :: cs) behind := by
  obtain ⟨isName, cut⟩ := name?_ok found
  refine ⟨word_formed name isName, ?_, ?_⟩
  · rw [word_text]
    exact cut
  · intro other formed front
    rw [word_text]
    rcases lexeme_at_name found other formed front with
      short | ⟨field, isField, after, _⟩ | ⟨after, _⟩
    · exact short
    · exact absurd after (noField field isField)
    · exact absurd after noCall

/-- Whatever a name grows into is the longest lexeme. -/
theorem named_longest {token : Token} {rest : List Char}
    (grown : named name behind = .ok (token, rest)) : token.Longest (c :: cs) rest := by
  unfold named at grown
  split at grown
  · split at grown
    · rename_i inside
      cases grown
      obtain ⟨_, rfl⟩ := name?_ok inside
      exact qualified_longest found rfl inside
    · cases grown
  · cases grown
    exact placeholder_longest found rfl
  · rename_i noField noCall
    cases grown
    refine word_longest found ?_ ?_
    · rintro field _ ⟨more, after⟩
      exact noField (field ++ more) after.symm
    · rintro ⟨more, after⟩
      exact noCall more after.symm

/-- Where a name cannot grow, it is itself the longest lexeme, and a dot without a field follows. -/
theorem named_error {stop : Stop} (stopped : named name behind = .error stop) :
    (word name).Longest (c :: cs) behind ∧ behind.head? = some '.' := by
  unfold named at stopped
  split at stopped
  · split at stopped
    · cases stopped
    · rename_i noName
      refine ⟨word_longest found ?_ ?_, rfl⟩
      · intro field isField after
        obtain ⟨_, _, read, _⟩ :=
          name?_longest field _ isField (List.cons_prefix_cons.mp after).2
        rw [noName] at read
        cases read
      · intro after
        exact absurd (List.cons_prefix_cons.mp after).1 (by decide)
  · cases stopped
  · cases stopped

end Named

/-- A number takes its fraction and its exponent with it. -/
theorem number_token_longest (c : Char) (cs : List Char) (digit : c.isDigit = true) :
    (Token.number (String.ofList (number (c :: cs)).1)).Longest (c :: cs)
      (number (c :: cs)).2 := by
  obtain ⟨numeral, cut⟩ := number_ok c cs digit
  refine .of_family ?_ ?_ ?_
  · change Numeral (String.ofList _).toList
    rwa [String.toList_ofList]
  · rwa [Token.text, String.toList_ofList]
  · intro other formed same front
    cases other with
    | number digits =>
      rw [Token.text, Token.text, String.toList_ofList]
      exact number_longest _ _ formed front
    | _ => cases same

/-- A quoted text ends at the first quote, and nothing longer can start with that quote. -/
theorem quoted_token_longest {cs content rest : List Char}
    (found : quoted? cs = some (content, rest)) :
    (Token.quoted (String.ofList content)).Longest ('\'' :: cs) rest := by
  obtain ⟨free, cut⟩ := quoted?_ok found
  refine .of_family ?_ ?_ ?_
  · change '\'' ∉ (String.ofList content).toList
    rwa [String.toList_ofList]
  · simp [Token.text, cut]
  · intro other formed same front
    cases other with
    | quoted longer =>
      have inside : longer.toList ++ ['\''] <+: cs := by simpa [Token.text] using front
      obtain ⟨_, again⟩ := quoted?_of_prefix longer.toList cs formed inside
      rw [found, Option.some.injEq, Prod.mk.injEq] at again
      simp [Token.text, again.1]
    | _ => cases same

theorem operator_token_longest {c : Char} {cs rest : List Char} {op : Operator}
    (found : operator? (c :: cs) = some (op, rest)) :
    (Token.operator op).Longest (c :: cs) rest := by
  refine .of_family trivial (operator?_ok found) ?_
  intro other _ same front
  cases other with
  | operator shorter =>
    obtain ⟨_, _, again, bound⟩ := operator?_of_prefix shorter _ front
    rw [found, Option.some.injEq, Prod.mk.injEq] at again
    obtain ⟨rfl, _⟩ := again
    exact bound
  | _ => cases same

/-- The scanner takes the longest lexeme, whatever family it belongs to. -/
theorem token_longest {cs rest : List Char} {read : Token}
    (scanned : token cs = .ok (read, rest)) : read.Longest cs rest := by
  cases cs with
  | nil => cases scanned
  | cons c cs =>
    rw [token] at scanned
    split at scanned
    · rename_i found
      exact named_longest found scanned
    · split_ifs at scanned with digit opens closes comma quote
      · cases scanned
        exact number_token_longest c cs digit
      · cases scanned
        subst opens
        exact .of_alone trivial rfl (by intro other same; cases other <;> cases same; rfl)
      · cases scanned
        subst closes
        exact .of_alone trivial rfl (by intro other same; cases other <;> cases same; rfl)
      · cases scanned
        subst comma
        exact .of_alone trivial rfl (by intro other same; cases other <;> cases same; rfl)
      · subst quote
        split at scanned
        · rename_i found
          cases scanned
          exact quoted_token_longest found
        · cases scanned
      · split at scanned
        · rename_i found
          cases scanned
          exact operator_token_longest found
        · cases scanned

theorem token_of_name {cs name rest : List Char} (found : name? cs = some (name, rest)) :
    token cs = named name rest := by
  cases cs with
  | nil => cases found
  | cons c cs => rw [token, found]

theorem token_of_quoted {cs content rest : List Char} (found : quoted? cs = some (content, rest)) :
    token ('\'' :: cs) = .ok (.quoted (String.ofList content), rest) := by
  have noName : name? ('\'' :: cs) = none := rfl
  have noDigit : '\''.isDigit = false := by decide
  simp [token, noName, noDigit, found]

/-- A lexeme that stands alone is read as the token that it is the text of. -/
theorem token_text (lexeme : Token) (formed : lexeme.WellFormed) :
    token lexeme.text.toList = .ok (lexeme, []) := by
  cases lexeme with
  | qualified table field =>
    have spelled : (Token.qualified table field).text.toList =
        table.toList ++ '.' :: field.toList := by
      simp [Token.text]
    have found := name?_append table.toList ('.' :: field.toList) formed.1 (by simp; decide)
    rw [spelled, token_of_name found, named, name?_self field.toList formed.2]
    simp only [String.ofList_toList]
  | placeholder name =>
    have spelled : (Token.placeholder name).text.toList = name.toList ++ ['(', ')'] := by
      simp [Token.text]
    have found := name?_append name.toList ['(', ')'] formed (by simp; decide)
    rw [spelled, token_of_name found, named, String.ofList_toList]
  | keyword connective => cases connective <;> rfl
  | number digits =>
    obtain ⟨c, others, spelled, digit⟩ := Numeral.head _ formed
    have noName : name? (c :: others) = none := by
      rw [name?, isNameStart_of_isDigit c digit, if_neg Bool.false_ne_true]
    rw [Token.text, spelled, token, noName, ← spelled, number_self _ formed]
    simp only [digit, if_true, String.ofList_toList]
  | quoted content =>
    have spelled : (Token.quoted content).text.toList = '\'' :: (content.toList ++ ['\'']) := by
      simp [Token.text]
    rw [spelled, token_of_quoted (quoted?_append content.toList [] formed), String.ofList_toList]
  | ident name =>
    obtain ⟨isName, reads⟩ := word_of_identifier name formed
    rw [Token.text, token_of_name (name?_self _ isName), named, reads]
    · simp
    · simp
  | operator op => cases op <;> rfl
  | openParen | closeParen | comma => rfl

end Scan

namespace Token

/-- Different lexemes have different texts. -/
theorem WellFormed.text_injective {one other : Token} (oneFormed : one.WellFormed)
    (otherFormed : other.WellFormed) (same : one.text.toList = other.text.toList) : one = other := by
  have alone := Scan.token_text one oneFormed
  rw [same, Scan.token_text other otherFormed, Except.ok.injEq, Prod.mk.injEq] at alone
  exact alone.1.symm

/-- There is one longest lexeme. -/
theorem Longest.unique {one other : Token} {source rest behind : List Char}
    (first : one.Longest source rest) (second : other.Longest source behind) :
    one = other ∧ rest = behind := by
  have atMost := second.longest one first.formed (first.split ▸ List.prefix_append _ _)
  have atLeast := first.longest other second.formed (second.split ▸ List.prefix_append _ _)
  have cut := first.split.symm.trans second.split
  obtain ⟨texts, rests⟩ := List.append_inj cut (Nat.le_antisymm atMost atLeast)
  exact ⟨first.formed.text_injective second.formed texts, rests⟩

/-- No gap and no dot starts a lexeme. -/
theorem Longest.head {source rest : List Char} {token : Token}
    (longest : token.Longest source rest) :
    ∃ c cs, source = c :: cs ∧ Scan.isGap c = false ∧ c ≠ '.' := by
  obtain ⟨c, cs, spelled, family⟩ := longest.formed.head
  refine ⟨c, cs ++ rest, by rw [longest.split, spelled, List.cons_append], ?_, ?_⟩
  · cases gap : Scan.isGap c with
    | false => rfl
    | true =>
      have either : c = ' ' ∨ c = '\t' := by simpa [Scan.isGap] using gap
      have none : Family.ofChar? ' ' = none ∧ Family.ofChar? '\t' = none := by decide
      rcases either with rfl | rfl
      · rw [none.1] at family
        cases family
      · rw [none.2] at family
        cases family
  · rintro rfl
    have none : Family.ofChar? '.' = none := by decide
    rw [none] at family
    cases family

end Token

namespace Scan

open Text Token

/-- Where the scanner stops though a lexeme stands there, a dot follows the lexeme. -/
theorem token_error {cs rest : List Char} {stop : Stop} {lexeme : Token}
    (stopped : token cs = .error stop) (longest : lexeme.Longest cs rest) :
    rest.head? = some '.' := by
  have formed := longest.formed
  have front : lexeme.text.toList <+: cs := longest.split ▸ List.prefix_append _ _
  cases cs with
  | nil =>
    obtain ⟨_, _, spelled, _⟩ := formed.head
    rw [List.prefix_nil.mp front] at spelled
    cases spelled
  | cons c cs =>
    have family := formed.family_of_prefix c cs front
    rw [token] at stopped
    split at stopped
    · rename_i found
      obtain ⟨alone, dot⟩ := named_error found stopped
      rwa [(longest.unique alone).2]
    · rename_i noName
      have noStart := name?_none noName
      split_ifs at stopped with digit opens closes comma quote
      · subst quote
        split at stopped
        · cases stopped
        · rename_i unclosed
          have isQuoted : Family.ofChar? '\'' = some .quoted := by decide
          rw [isQuoted, Option.some.injEq] at family
          cases lexeme with
          | quoted content =>
            obtain ⟨_, read⟩ := quoted?_of_prefix content.toList cs formed
              (by simpa [Token.text] using front)
            rw [unclosed] at read
            cases read
          | _ => cases family
      · split at stopped
        · cases stopped
        · rename_i noOperator
          rw [Family.ofChar?, if_neg (by simp [noStart]), if_neg digit, if_neg opens,
            if_neg closes, if_neg comma, if_neg quote] at family
          have isOperator : lexeme.family = .operator := by
            split at family
            · exact (Option.some.inj family).symm
            · cases family
          cases lexeme with
          | operator op =>
            obtain ⟨_, _, read, _⟩ := operator?_of_prefix op _ front
            rw [noOperator] at read
            cases read
          | _ => cases isOperator

end Scan

/-- A text cut up from front to back: skip a gap, take the longest lexeme, and go on behind it until
only a gap is left. -/
inductive Munch : List Char → List Token → Prop where
  | done (gap : List Char) (blank : gap.all Scan.isGap = true) : Munch gap []
  | take (gap source rest : List Char) (token : Token) (tokens : List Token)
      (blank : gap.all Scan.isGap = true) (longest : token.Longest source rest)
      (later : Munch rest tokens) : Munch (gap ++ source) (token :: tokens)

namespace Munch

theorem head_ne_dot {source : List Char} {tokens : List Token} (munch : Munch source tokens) :
    source.head? ≠ some '.' := by
  have blankHead : ∀ gap : List Char, gap.all Scan.isGap = true → gap.head? ≠ some '.' := by
    intro gap blank first
    cases gap with
    | nil => cases first
    | cons c gap =>
      obtain rfl := Option.some.inj first
      exact absurd (List.all_eq_true.mp blank '.' List.mem_cons_self) (by decide)
  cases munch with
  | done _ blank => exact blankHead source blank
  | take gap source rest token tokens blank longest =>
    obtain ⟨c, cs, rfl, _, noDot⟩ := longest.head
    cases gap with
    | nil => simpa using noDot
    | cons g gap => exact blankHead (g :: gap) blank

end Munch

namespace Scan

/-- What the scanner cuts up is cut up by taking the longest lexeme each time. -/
theorem lexemes_munch {cs : List Char} {scanned : Scanned} (read : lexemes cs = .ok scanned) :
    Munch cs scanned.tokens := by
  fun_induction lexemes cs generalizing scanned with
  | case1 cs empty =>
    cases read
    refine .done cs (List.all_eq_true.mpr ?_)
    exact List.dropWhile_eq_nil_iff.mp empty
  | case2 => cases read
  | case3 => cases read
  | case4 cs c rest front first after found scanned later ih =>
    cases read
    have cut : cs = cs.takeWhile isGap ++ (c :: rest) := by
      rw [← front, List.takeWhile_append_dropWhile]
    rw [cut]
    refine .take _ _ after first _ ?_ (token_longest found) (ih later)
    exact List.all_eq_true.mpr fun _ member => List.mem_takeWhile_imp member

theorem lexemes_of_token {cs rest after : List Char} {c : Char} {first : Token} {scanned : Scanned}
    (front : cs.dropWhile isGap = c :: rest) (found : token (c :: rest) = .ok (first, after))
    (later : lexemes after = .ok scanned) :
    lexemes cs =
      .ok { scanned with lexemes := ⟨cs.takeWhile isGap, first⟩ :: scanned.lexemes } := by
  rw [lexemes]
  split
  · rename_i empty
    rw [front] at empty
    cases empty
  · rename_i same
    rw [front] at same
    cases same
    split
    · rename_i stopped
      rw [found] at stopped
      cases stopped
    · rename_i again
      rw [found] at again
      cases again
      rw [later]

/-- The longest lexeme is read, unless a dot stops the scanner behind it. -/
theorem token_of_longest {source rest : List Char} {lexeme : Token}
    (longest : lexeme.Longest source rest) (noDot : rest.head? ≠ some '.') :
    token source = .ok (lexeme, rest) := by
  cases found : token source with
  | error stop => exact absurd (token_error found longest) noDot
  | ok result =>
    obtain ⟨rfl, rfl⟩ := (token_longest found).unique longest
    rfl

theorem lexemes_gap_append {gap source after : List Char} {first : Token} {scanned : Scanned}
    (blank : gap.all isGap = true) (found : token source = .ok (first, after))
    (later : lexemes after = .ok scanned) :
    lexemes (gap ++ source) =
      .ok { scanned with lexemes := ⟨gap, first⟩ :: scanned.lexemes } := by
  obtain ⟨c, cs, rfl, noGap, _⟩ := (token_longest found).head
  have blanks := List.all_eq_true.mp blank
  have front : (gap ++ c :: cs).dropWhile isGap = c :: cs := by
    rw [List.dropWhile_append_of_pos blanks, List.dropWhile_cons_of_neg (by simp [noGap])]
  have whole : (gap ++ c :: cs).takeWhile isGap = gap := by
    rw [List.takeWhile_append_of_pos blanks, List.takeWhile_cons_of_neg (by simp [noGap]),
      List.append_nil]
  rw [lexemes_of_token front found later, whole]

theorem lexemes_gap (gap : List Char) (blank : gap.all isGap = true) :
    lexemes gap = .ok ⟨[], gap⟩ := by
  have empty : gap.dropWhile isGap = [] :=
    List.dropWhile_eq_nil_iff.mpr (List.all_eq_true.mp blank)
  rw [lexemes]
  split
  · rfl
  · rename_i some
    rw [empty] at some
    cases some

/-- A text that can be cut up in this way is read by the scanner. -/
theorem munch_lexemes {cs : List Char} {tokens : List Token} (munch : Munch cs tokens) :
    ∃ scanned, lexemes cs = .ok scanned ∧ scanned.tokens = tokens := by
  induction munch with
  | done gap blank => exact ⟨⟨[], gap⟩, lexemes_gap gap blank, rfl⟩
  | take gap source rest lexeme tokens blank longest later ih =>
    obtain ⟨scanned, read, same⟩ := ih
    have first := token_of_longest longest later.head_ne_dot
    refine ⟨_, lexemes_gap_append blank first read, ?_⟩
    rw [← same]
    rfl

/-- Nothing of a text is lost, and what stands between its tokens is blank. -/
theorem lexemes_lossless {cs : List Char} {scanned : Scanned} (read : lexemes cs = .ok scanned) :
    scanned.text = cs ∧ (∀ lexeme ∈ scanned.lexemes, lexeme.gap.all isGap = true) ∧
      scanned.tail.all isGap = true := by
  fun_induction lexemes cs generalizing scanned with
  | case1 cs empty =>
    cases read
    exact ⟨rfl, by simp, List.all_eq_true.mpr (List.dropWhile_eq_nil_iff.mp empty)⟩
  | case2 => cases read
  | case3 => cases read
  | case4 cs c rest front first after found scanned later ih =>
    cases read
    obtain ⟨same, blanks, blankTail⟩ := ih later
    refine ⟨?_, ?_, blankTail⟩
    · calc Scanned.text ⟨⟨cs.takeWhile isGap, first⟩ :: scanned.lexemes, scanned.tail⟩
          = cs.takeWhile isGap ++ (first.text.toList ++ scanned.text) := by
            simp [Scanned.text, Lexeme.text]
        _ = cs.takeWhile isGap ++ cs.dropWhile isGap := by
            rw [same, ← (token_longest found).split, front]
        _ = cs := List.takeWhile_append_dropWhile
    · intro lexeme member
      rcases List.mem_cons.mp member with rfl | inside
      · exact List.all_eq_true.mpr fun _ member => List.mem_takeWhile_imp member
      · exact blanks lexeme inside

end Scan

namespace Expression

theorem scan_ok_iff (source : String) (scanned : Scanned) :
    scan source = .ok scanned ↔ Scan.lexemes source.toList = .ok scanned :=
  mapError_ok_iff _ _ _

theorem scan_tokens_iff (source : String) (tokens : List Token) :
    (∃ scanned, scan source = .ok scanned ∧ scanned.tokens = tokens) ↔
      Munch source.toList tokens := by
  simp only [scan_ok_iff]
  constructor
  · rintro ⟨scanned, read, rfl⟩
    exact Scan.lexemes_munch read
  · exact Scan.munch_lexemes

/-- Scanning cuts a source up into its longest lexemes and loses nothing of it. -/
theorem scan_takes_longest (source : String) :
    (∀ tokens, (scan source).map Scanned.tokens = .ok tokens ↔ Munch source.toList tokens) ∧
      ∀ scanned, scan source = .ok scanned →
        source.toList = scanned.text ∧
          (∀ lexeme ∈ scanned.lexemes, lexeme.gap.all Scan.isGap = true) ∧
          scanned.tail.all Scan.isGap = true := by
  refine ⟨?_, ?_⟩
  · intro tokens
    rw [← scan_tokens_iff]
    cases scan source <;> simp [Except.map]
  · intro scanned read
    obtain ⟨same, blanks, blankTail⟩ := Scan.lexemes_lossless ((scan_ok_iff _ _).mp read)
    exact ⟨same.symm, blanks, blankTail⟩

/-- A source whose lexemes could each be taken for something shorter, or for another kind. -/
def overlaps : String := "AND.val<>NOT() 1e+x\t5a.b ANDY ' it.x' AND 3.5E-2, "

theorem scan_takes_longest_overlaps :
    Munch overlaps.toList
        [.qualified "AND" "val", .operator .angles, .placeholder "NOT", .number "1", .ident "e",
          .operator .plus, .ident "x", .number "5", .qualified "a" "b", .ident "ANDY",
          .quoted " it.x", .keyword .and, .number "3.5E-2", .comma] ∧
      ∃ scanned, scan overlaps = .ok scanned ∧ overlaps.toList = scanned.text := by
  obtain ⟨cuts, lossless⟩ := scan_takes_longest overlaps
  refine ⟨(cuts _).mp (by decide +kernel), ?_⟩
  cases read : scan overlaps with
  | ok scanned => exact ⟨scanned, rfl, (lossless scanned read).1⟩
  | error error =>
    have found : (scan overlaps).isOk = true := by decide +kernel
    rw [read] at found
    cases found

end Expression

end Superstep
