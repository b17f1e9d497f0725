import Superstep.Proofs.Token.LongestMatch

/-!
# The scanner reads the token grammar

The grammar of tokens is a list of rules, and a token is what the first rule that matches takes. The
rules overlap: a qualified name, a placeholder, a connective and a bare name all start with a name, and
only their order decides between them. The scanner has no order to follow; it looks at the first
character and then takes what is longest. The two agree on every text, those that are refused included.

They part at one place only, and it does not matter. Behind `a.` without a field the scanner stops,
while the choice falls back to the bare name `a` and leaves the dot, where no token starts.
-/

namespace Superstep.Grammar

/-- A rule takes something off the front of the text, or does not match. -/
abbrev Rule (α : Type) := StateT (List Char) Option α

section Operators

variable {α : Type}

def one (accepts : Char → Bool) : Rule Char
  | [] => none
  | c :: cs => if accepts c then some (c, cs) else none

/-- As many characters of a class as there are, `accepts*`. -/
def many (accepts : Char → Bool) : Rule (List Char) := fun cs =>
  some (cs.takeWhile accepts, cs.dropWhile accepts)

/-- At least one character of a class, `accepts+`. -/
def many1 (accepts : Char → Bool) : Rule (List Char) := do
  let first ← one accepts
  let others ← many accepts
  return first :: others

def literal (text : List Char) : Rule (List Char) := fun cs =>
  if text.isPrefixOf cs then some (text, cs.drop text.length) else none

/-- The rule or nothing, `rule?`. -/
def optional (rule : Rule (List Char)) : Rule (List Char) := fun cs =>
  match rule cs with
  | some taken => some taken
  | none => some ([], cs)

/-- The rule does not match here, `!rule`. Nothing is taken. -/
def notNext (rule : Rule α) : Rule Unit := fun cs =>
  match rule cs with
  | some _ => none
  | none => some ((), cs)

/-- The first of the rules that matches. Those behind it are not tried. -/
def firstOf : List (Rule α) → Rule α
  | [] => fun _ => none
  | rule :: others => fun cs =>
    match rule cs with
    | some taken => some taken
    | none => firstOf others cs

end Operators

/-! ## The rules, in the order in which they are tried -/

def ident : Rule (List Char) := do
  let first ← one Text.isNameStart
  let others ← many Text.isNameChar
  return first :: others

def qualified : Rule Token := do
  let table ← ident
  let _ ← literal ['.']
  let field ← ident
  return .qualified (String.ofList table) (String.ofList field)

def placeholder : Rule Token := do
  let name ← ident
  let _ ← literal ['(']
  let _ ← literal [')']
  return .placeholder (String.ofList name)

def connective (word : Connective) : Rule Connective := do
  let _ ← literal word.text.toList
  return word

/-- A connective is not the front of a longer name. -/
def keyword : Rule Token := do
  let word ← firstOf ([.and, .or, .not].map connective)
  notNext (one Text.isNameChar)
  return .keyword word

def fraction : Rule (List Char) := do
  let point ← literal ['.']
  let digits ← many1 Char.isDigit
  return point ++ digits

def exponent : Rule (List Char) := do
  let mark ← firstOf [literal ['e'], literal ['E']]
  let sign ← optional (firstOf [literal ['+'], literal ['-']])
  let digits ← many1 Char.isDigit
  return mark ++ (sign ++ digits)

def number : Rule Token := do
  let whole ← many1 Char.isDigit
  let fractional ← optional fraction
  let scale ← optional exponent
  return .number (String.ofList (whole ++ fractional ++ scale))

def quoted : Rule Token := do
  let _ ← literal ['\'']
  let content ← many (· ≠ '\'')
  let _ ← literal ['\'']
  return .quoted (String.ofList content)

def bare : Rule Token := do
  let name ← ident
  return .ident (String.ofList name)

/-- The longer spellings stand before the shorter ones that they start with. -/
def operators : List Operator :=
  [.doubleEqual, .bangEqual, .angles, .atMost, .atLeast, .less, .greater, .equal, .plus, .minus,
    .times, .divide, .modulo]

def spelled (token : Token) : Rule Token := do
  let _ ← literal token.text.toList
  return token

def operator : Rule Token := firstOf (operators.map fun op => spelled (.operator op))

def token : Rule Token :=
  firstOf [qualified, placeholder, keyword, number, quoted, bare, operator, spelled .openParen,
    spelled .closeParen, spelled .comma]

/-! ## What each rule takes -/

section Operators

variable {α β : Type}

theorem bind_apply (rule : Rule α) (next : α → Rule β) (cs : List Char) :
    (rule >>= next) cs = (rule cs).bind fun taken => next taken.1 taken.2 := rfl

theorem pure_apply (value : α) (cs : List Char) : (pure value : Rule α) cs = some (value, cs) := rfl

theorem map_apply (change : α → β) (rule : Rule α) (cs : List Char) :
    (change <$> rule) cs = (rule cs).map fun taken => (change taken.1, taken.2) := by
  cases taken : rule cs with
  | none => exact congrArg (Option.bind · _) taken
  | some read => exact congrArg (Option.bind · _) taken

theorem literal_append (text rest : List Char) :
    literal text (text ++ rest) = some (text, rest) := by
  have front : text.isPrefixOf (text ++ rest) = true :=
    List.isPrefixOf_iff_prefix.mpr (List.prefix_append text rest)
  rw [literal, if_pos front, List.drop_left]

theorem literal_eq_none {text cs : List Char} (apart : ¬ text <+: cs) : literal text cs = none := by
  rw [literal, if_neg (mt List.isPrefixOf_iff_prefix.mp apart)]

theorem literal_eq_some {text cs taken rest : List Char}
    (matched : literal text cs = some (taken, rest)) : taken = text ∧ cs = text ++ rest := by
  by_cases front : text <+: cs
  · obtain ⟨behind, rfl⟩ := front
    rw [literal_append] at matched
    cases matched
    exact ⟨rfl, rfl⟩
  · rw [literal_eq_none front] at matched
    cases matched

theorem literal_single_ne {c d : Char} (differ : c ≠ d) (cs : List Char) :
    literal [c] (d :: cs) = none :=
  literal_eq_none fun front => differ (List.cons_prefix_cons.mp front).1

theorem many1_eq (accepts : Char → Bool) (cs : List Char) :
    many1 accepts cs = if (cs.takeWhile accepts).isEmpty then none
      else some (cs.takeWhile accepts, cs.dropWhile accepts) := by
  cases cs with
  | nil => rfl
  | cons c cs =>
    cases accepted : accepts c with
    | false => simp [many1, bind_apply, one, accepted]
    | true => simp [many1, bind_apply, map_apply, one, many, accepted]

theorem firstOf_append_of_none {rules : List (Rule α)} {cs : List Char}
    (apart : ∀ rule ∈ rules, rule cs = none) (later : List (Rule α)) :
    firstOf (rules ++ later) cs = firstOf later cs := by
  induction rules with
  | nil => rfl
  | cons rule others ih =>
    rw [List.forall_mem_cons] at apart
    simp only [List.cons_append, firstOf, apart.1]
    exact ih apart.2

theorem exists_of_firstOf {rules : List (Rule α)} {cs : List Char} {taken : α × List Char}
    (chosen : firstOf rules cs = some taken) : ∃ rule ∈ rules, rule cs = some taken := by
  induction rules with
  | nil => cases chosen
  | cons rule others ih =>
    cases first : rule cs with
    | some read =>
      simp only [firstOf, first] at chosen
      exact ⟨rule, List.mem_cons_self, first.trans chosen⟩
    | none =>
      simp only [firstOf, first] at chosen
      obtain ⟨later, member, taken⟩ := ih chosen
      exact ⟨later, List.mem_cons_of_mem _ member, taken⟩

theorem optional_eq (rule : Rule (List Char)) (cs : List Char) :
    optional rule cs = some ((rule cs).getD ([], cs)) := by
  cases taken : rule cs <;> simp only [optional, taken] <;> rfl

end Operators

theorem ident_eq (cs : List Char) : ident cs = Scan.name? cs := by
  cases cs with
  | nil => rfl
  | cons c cs =>
    cases start : Text.isNameStart c with
    | false => simp [ident, bind_apply, one, Scan.name?, start]
    | true => simp [ident, bind_apply, map_apply, one, many, Scan.name?, start]

theorem qualified_eq (cs : List Char) :
    qualified cs = (Scan.name? cs).bind fun (table, behind) =>
      (literal ['.'] behind).bind fun (_, rest) => (Scan.name? rest).map fun (field, rest) =>
        (.qualified (String.ofList table) (String.ofList field), rest) := by
  simp only [qualified, bind_apply, pure_apply, ident_eq, Option.map_eq_bind]
  rfl

theorem placeholder_eq (cs : List Char) :
    placeholder cs = (Scan.name? cs).bind fun (name, behind) =>
      (literal ['('] behind).bind fun (_, rest) => (literal [')'] rest).map fun (_, rest) =>
        (.placeholder (String.ofList name), rest) := by
  simp only [placeholder, bind_apply, pure_apply, ident_eq, Option.map_eq_bind]
  rfl

theorem bare_eq (cs : List Char) :
    bare cs = (Scan.name? cs).map fun (name, rest) => (.ident (String.ofList name), rest) := by
  simp only [bare, bind_apply, pure_apply, ident_eq, Option.map_eq_bind]
  rfl

/-- A point without digits behind it is not taken, by either. -/
theorem optional_fraction_eq (cs : List Char) : optional fraction cs = some (Scan.fraction cs) := by
  rw [optional_eq]
  cases cs with
  | nil => rfl
  | cons c cs =>
    by_cases point : c = '.'
    · subst point
      have taken : literal ['.'] ('.' :: cs) = some (['.'], cs) := literal_append ['.'] cs
      have digits := many1_eq Char.isDigit cs
      simp only [fraction, bind_apply, pure_apply, taken, Option.bind_some, digits, Scan.fraction]
      split
      · rfl
      · rfl
    · have apart : Scan.fraction (c :: cs) = ([], c :: cs) := by
        unfold Scan.fraction
        split
        · rename_i same
          exact absurd (List.cons.inj same).1 point
        · rfl
      simp only [fraction, bind_apply, literal_single_ne (Ne.symm point), apart]
      rfl

theorem optional_sign_eq (cs : List Char) :
    optional (firstOf [literal ['+'], literal ['-']]) cs = some (Scan.sign cs) := by
  rw [optional_eq]
  unfold Scan.sign
  split
  · rfl
  · rfl
  · rename_i noPlus noMinus
    cases cs with
    | nil => rfl
    | cons c cs =>
      have plus : '+' ≠ c := fun same => noPlus cs (by rw [same])
      have minus : '-' ≠ c := fun same => noMinus cs (by rw [same])
      simp only [firstOf, literal_single_ne plus, literal_single_ne minus]
      rfl

/-- A mark without digits behind it is not taken, and a sign is not either. -/
theorem optional_exponent_eq (cs : List Char) : optional exponent cs = some (Scan.exponent cs) := by
  rw [optional_eq]
  cases cs with
  | nil => rfl
  | cons c cs =>
    have digits := many1_eq Char.isDigit (Scan.sign cs).2
    by_cases mark : c = 'e' ∨ c = 'E'
    · have taken : firstOf [literal ['e'], literal ['E']] (c :: cs) = some ([c], cs) := by
        rcases mark with rfl | rfl
        · rfl
        · rfl
      have marks : (decide (c = 'e') || decide (c = 'E')) = true := by simpa using mark
      simp only [exponent, bind_apply, pure_apply, taken, Option.bind_some, optional_sign_eq, digits,
        Scan.exponent, marks, Bool.true_and]
      cases ((Scan.sign cs).2.takeWhile Char.isDigit).isEmpty with
      | true => rfl
      | false => rfl
    · rw [not_or] at mark
      have apart : firstOf [literal ['e'], literal ['E']] (c :: cs) = none := by
        simp only [firstOf, literal_single_ne (Ne.symm mark.1), literal_single_ne (Ne.symm mark.2)]
      have marks : (decide (c = 'e') || decide (c = 'E')) = false := by simpa using mark
      simp only [exponent, bind_apply, apart, Scan.exponent, marks, Bool.false_and]
      rfl

theorem number_eq (c : Char) (cs : List Char) :
    number (c :: cs) = if c.isDigit then
      some (.number (String.ofList (Scan.number (c :: cs)).1), (Scan.number (c :: cs)).2)
    else none := by
  have whole := many1_eq Char.isDigit (c :: cs)
  cases digit : c.isDigit with
  | false =>
    simp only [List.takeWhile_cons, digit] at whole
    simp only [number, bind_apply, whole]
    rfl
  | true =>
    simp only [number, bind_apply, pure_apply, whole, List.takeWhile_cons, digit, if_true,
      List.isEmpty_cons, Bool.false_eq_true, if_false, Option.bind_some, optional_fraction_eq,
      optional_exponent_eq, Scan.number]

/-- A quoted text ends at the first quote behind the one that opens it. -/
theorem quoted_eq (cs : List Char) :
    quoted ('\'' :: cs) = (Scan.quoted? cs).map fun (content, rest) =>
      (.quoted (String.ofList content), rest) := by
  have opened : literal ['\''] ('\'' :: cs) = some (['\''], cs) := literal_append ['\''] cs
  simp only [quoted, bind_apply, pure_apply, opened, Option.bind_some, many]
  cases closed : cs.dropWhile (· ≠ '\'') with
  | nil =>
    have unclosed : Scan.quoted? cs = none := by
      cases found : Scan.quoted? cs with
      | none => rfl
      | some read =>
        obtain ⟨_, split⟩ := Scan.quoted?_ok found
        have member : '\'' ∈ cs := by
          rw [split]
          simp
        have other := List.dropWhile_eq_nil_iff.mp closed '\'' member
        simp at other
    rw [unclosed]
    rfl
  | cons c rest =>
    have quote : c = '\'' := by
      have first := List.head?_dropWhile_not (· ≠ '\'') cs
      rw [closed] at first
      simpa using first
    subst quote
    have free : '\'' ∉ cs.takeWhile (· ≠ '\'') := by
      intro member
      simpa using List.mem_takeWhile_imp member
    have found := Scan.quoted?_append (cs.takeWhile (· ≠ '\'')) rest free
    rw [← closed, List.takeWhile_append_dropWhile] at found
    have shut : literal ['\''] ('\'' :: rest) = some (['\''], rest) := literal_append ['\''] rest
    rw [found, shut]
    rfl

theorem quoted_eq_none {c : Char} (other : c ≠ '\'') (cs : List Char) : quoted (c :: cs) = none := by
  simp only [quoted, bind_apply, literal_single_ne (Ne.symm other)]
  rfl

theorem spelled_append (token : Token) (rest : List Char) :
    spelled token (token.text.toList ++ rest) = some (token, rest) := by
  simp only [spelled, bind_apply, pure_apply, literal_append, Option.bind_some]

theorem spelled_eq_none {token : Token} {cs : List Char} (apart : ¬ token.text.toList <+: cs) :
    spelled token cs = none := by
  simp only [spelled, bind_apply, literal_eq_none apart]
  rfl

/-- An operator that is tried before another is not shorter. -/
theorem operators_before (op : Operator) :
    ∃ before later, operators = before ++ op :: later ∧
      ∀ other ∈ before, other ≠ op ∧ op.text.toList.length ≤ other.text.toList.length := by
  refine ⟨operators.takeWhile (· ≠ op), (operators.dropWhile (· ≠ op)).tail, ?_, ?_⟩
  · cases op <;> rfl
  · cases op <;> decide

/-- Trying the operators in order finds the one that the scanner finds. -/
theorem operator_eq (cs : List Char) :
    operator cs = (Scan.operator? cs).map fun (op, rest) => (.operator op, rest) := by
  cases found : Scan.operator? cs with
  | none =>
    have apart : ∀ rule ∈ operators.map fun op => spelled (.operator op), rule cs = none := by
      intro rule member
      obtain ⟨op, _, rfl⟩ := List.mem_map.mp member
      refine spelled_eq_none ?_
      intro front
      obtain ⟨longest, rest, read, _⟩ := Scan.operator?_of_prefix op cs front
      rw [found] at read
      cases read
    exact firstOf_append_of_none apart []
  | some read =>
    obtain ⟨op, rest⟩ := read
    obtain ⟨before, later, split, longer⟩ := operators_before op
    have cut := Scan.operator?_ok found
    have apart : ∀ rule ∈ before.map fun op => spelled (.operator op), rule cs = none := by
      intro rule member
      obtain ⟨other, early, rfl⟩ := List.mem_map.mp member
      obtain ⟨differ, notShorter⟩ := longer other early
      refine spelled_eq_none ?_
      intro front
      -- The scanner has found the longest, so the other has the same length and is the same.
      obtain ⟨longest, behind, read, notLonger⟩ := Scan.operator?_of_prefix other cs front
      rw [found] at read
      cases read
      have same : other.text.toList = op.text.toList := by
        have both : op.text.toList <+: cs := ⟨rest, cut.symm⟩
        exact (List.prefix_of_prefix_length_le front both notLonger).eq_of_length
          (Nat.le_antisymm notLonger notShorter)
      have equal : Token.operator other = .operator op :=
        Token.WellFormed.text_injective trivial trivial same
      exact differ (Token.operator.inj equal)
    rw [operator, split, List.map_append, firstOf_append_of_none apart, List.map_cons, cut]
    simp only [firstOf]
    rw [show spelled (.operator op) (op.text.toList ++ rest) = some (.operator op, rest) from
      spelled_append (.operator op) rest]
    rfl

/-- Looking ahead takes nothing, and passes at the end of the text too. -/
theorem notNext_one_eq_some_iff (accepts : Char → Bool) (cs rest : List Char) :
    notNext (one accepts) cs = some ((), rest) ↔
      cs = rest ∧ ∀ c, rest.head? = some c → accepts c = false := by
  cases cs with
  | nil =>
    constructor
    · intro passed
      cases passed
      exact ⟨rfl, by simp⟩
    · rintro ⟨rfl, _⟩
      rfl
  | cons c cs =>
    cases accepted : accepts c with
    | true =>
      simp only [notNext, one, accepted, if_true, reduceCtorEq, false_iff]
      rintro ⟨rfl, stops⟩
      rw [stops c rfl] at accepted
      cases accepted
    | false =>
      simp only [notNext, one, accepted, Bool.false_eq_true, if_false, Option.some.injEq,
        Prod.mk.injEq, true_and]
      constructor
      · rintro rfl
        refine ⟨rfl, ?_⟩
        intro first same
        cases same
        exact accepted
      · exact And.left

theorem name?_stops {cs name rest : List Char} (found : Scan.name? cs = some (name, rest)) (c : Char)
    (first : rest.head? = some c) : Text.isNameChar c = false := by
  cases cs with
  | nil => cases found
  | cons d cs =>
    rw [Scan.name?, if_pos (Scan.name?_start found)] at found
    cases found
    have stopped := List.head?_dropWhile_not Text.isNameChar cs
    rw [first] at stopped
    exact stopped

theorem ofText?_eq_some_iff (text : String) (word : Connective) :
    Connective.ofText? text = some word ↔ text = word.text := by
  constructor
  · intro found
    unfold Connective.ofText? at found
    split at found
    · cases found
      assumption
    · split at found
      · cases found
        assumption
      · split at found
        · cases found
          assumption
        · cases found
  · rintro rfl
    cases word <;> rfl

/-- A connective is taken exactly where a whole name is a connective. -/
theorem keyword_eq (cs : List Char) :
    keyword cs = (Scan.name? cs).bind fun (name, rest) =>
      (Connective.ofText? (String.ofList name)).map fun word => (.keyword word, rest) := by
  have whole : ∀ word rest, cs = word.text.toList ++ rest →
      (∀ c, rest.head? = some c → Text.isNameChar c = false) →
      keyword cs = some (.keyword word, rest) ∧
        Scan.name? cs = some (word.text.toList, rest) := by
    rintro word rest rfl stops
    have taken : firstOf ([.and, .or, .not].map connective) (word.text.toList ++ rest) =
        some (word, rest) := by
      cases word <;> rfl
    have passed := (notNext_one_eq_some_iff Text.isNameChar rest rest).mpr ⟨rfl, stops⟩
    refine ⟨?_, Scan.name?_append _ rest (by cases word <;> decide) stops⟩
    simp only [keyword, bind_apply, pure_apply, taken, Option.bind_some, passed]
  cases found : keyword cs with
  | some read =>
    -- What was taken is a connective, and no longer name stands there.
    obtain ⟨token, rest⟩ := read
    simp only [keyword, bind_apply, pure_apply, Option.bind_eq_some_iff, Prod.exists] at found
    obtain ⟨word, behind, chosen, _, _, passed, same⟩ := found
    cases same
    obtain ⟨rfl, stops⟩ := (notNext_one_eq_some_iff _ _ _).mp passed
    have cut : cs = word.text.toList ++ behind := by
      obtain ⟨rule, member, taken⟩ := exists_of_firstOf chosen
      obtain ⟨tried, _, rfl⟩ := List.mem_map.mp member
      simp only [connective, bind_apply, pure_apply, Option.bind_eq_some_iff, Prod.exists] at taken
      obtain ⟨_, _, matched, same⟩ := taken
      cases same
      exact (literal_eq_some matched).2
    obtain ⟨_, name⟩ := whole word behind cut stops
    have isWord : Connective.ofText? (String.ofList word.text.toList) = some word :=
      (ofText?_eq_some_iff _ _).mpr String.ofList_toList
    rw [name, Option.bind_some]
    simp only [isWord, Option.map_some]
  | none =>
    symm
    rw [Option.bind_eq_none_iff]
    rintro ⟨name, rest⟩ named
    dsimp only
    cases isWord : Connective.ofText? (String.ofList name) with
    | none => rfl
    | some word =>
      have spelled := (ofText?_eq_some_iff _ _).mp isWord
      have cut := (Scan.name?_ok named).2
      rw [← String.toList_ofList (l := name), spelled] at cut
      rw [(whole word rest cut (name?_stops named)).1] at found
      cases found

theorem spelled_char {token : Token} {mark : Char} (text : token.text.toList = [mark]) (c : Char)
    (cs : List Char) : spelled token (c :: cs) = if c = mark then some (token, cs) else none := by
  split
  · rename_i same
    have taken := spelled_append token cs
    rwa [text, List.singleton_append, ← same] at taken
  · rename_i other
    refine spelled_eq_none ?_
    rw [text]
    exact fun front => other (List.cons_prefix_cons.mp front).1.symm

/-- Where neither a field nor parentheses follow, a name is a connective or stands alone. -/
theorem token_of_word {cs name rest : List Char} (found : Scan.name? cs = some (name, rest))
    (noField : qualified cs = none) (noCall : placeholder cs = none) :
    token cs = some (Scan.word name, rest) := by
  obtain ⟨c, others, rfl⟩ : ∃ c others, cs = c :: others := by
    cases cs with
    | nil => cases found
    | cons c others => exact ⟨c, others, rfl⟩
  have start := Scan.name?_start found
  have noNumber : number (c :: others) = none := by
    rw [number_eq]
    refine if_neg ?_
    intro digit
    rw [Text.isNameStart_of_isDigit c digit] at start
    cases start
  have noQuote : quoted (c :: others) = none := by
    refine quoted_eq_none ?_ others
    rintro rfl
    exact absurd start (by decide)
  have alone := bare_eq (c :: others)
  have reserved := keyword_eq (c :: others)
  rw [found] at alone reserved
  simp only [Option.bind_some, Option.map_some] at alone reserved
  simp only [token, firstOf, noField, noCall, reserved, noNumber, noQuote, alone]
  unfold Scan.word
  cases Connective.ofText? (String.ofList name) with
  | some word => rfl
  | none => rfl

/-- The rules that start with a name, one after the other, against the scanner. -/
theorem token_of_name {cs name rest : List Char} (found : Scan.name? cs = some (name, rest)) :
    token cs = match Scan.named name rest with
      | .ok read => some read
      | .error _ => some (Scan.word name, rest) := by
  have field := qualified_eq cs
  have call := placeholder_eq cs
  rw [found] at field call
  simp only [Option.bind_some] at field call
  fun_cases Scan.named name rest with
  | case1 behind column after named =>
    have dot : literal ['.'] ('.' :: behind) = some (['.'], behind) := literal_append ['.'] behind
    rw [dot, Option.bind_some, named, Option.map_some] at field
    simp only [token, firstOf, field]
  | case2 behind named =>
    have dot : literal ['.'] ('.' :: behind) = some (['.'], behind) := literal_append ['.'] behind
    rw [dot, Option.bind_some, named, Option.map_none] at field
    rw [literal_single_ne (by decide)] at call
    exact token_of_word found field call
  | case3 after =>
    rw [literal_single_ne (by decide)] at field
    have called : placeholder cs = some (.placeholder (String.ofList name), after) := call
    simp only [token, firstOf, show qualified cs = none from field, called]
  | case4 _ noDot noParens =>
    refine token_of_word found ?_ ?_
    · cases rest with
      | nil => exact field
      | cons c rest =>
        have apart : '.' ≠ c := by
          rintro rfl
          exact noDot rest rfl
        rw [literal_single_ne apart] at field
        exact field
    · cases rest with
      | nil => exact call
      | cons c rest =>
        by_cases paren : c = '('
        · subst paren
          have opened : literal ['('] ('(' :: rest) = some (['('], rest) := literal_append ['('] rest
          rw [opened, Option.bind_some] at call
          cases rest with
          | nil => exact call
          | cons d rest =>
            have apart : ')' ≠ d := by
              rintro rfl
              exact noParens rest rfl
            rw [literal_single_ne apart] at call
            exact call
        · rw [literal_single_ne (Ne.symm paren)] at call
          exact call

/-- Of every text the first rule that matches takes the token that the scanner takes, or the name that
the scanner stops behind. -/
theorem token_eq (cs : List Char) :
    token cs = match Scan.token cs with
      | .ok read => some read
      | .error _ => (Scan.name? cs).map fun (name, rest) => (Scan.word name, rest) := by
  cases found : Scan.name? cs with
  | some read =>
    obtain ⟨name, rest⟩ := read
    rw [token_of_name found, Scan.token_of_name found]
    rfl
  | none =>
    cases cs with
    | nil => rfl
    | cons c cs =>
      have noField := qualified_eq (c :: cs)
      have noCall := placeholder_eq (c :: cs)
      have noWord := keyword_eq (c :: cs)
      have noName := bare_eq (c :: cs)
      rw [found] at noField noCall noWord noName
      simp only [Option.bind_none, Option.map_none] at noField noCall noWord noName
      simp only [token, firstOf, noField, noCall, noWord, noName, number_eq, operator_eq,
        spelled_char (show Token.openParen.text.toList = ['('] from rfl),
        spelled_char (show Token.closeParen.text.toList = [')'] from rfl),
        spelled_char (show Token.comma.text.toList = [','] from rfl), Scan.token, found]
      -- What is left starts with different characters, so the order of the rules is immaterial.
      by_cases digit : c.isDigit = true
      · simp only [if_pos digit]
      by_cases opened : c = '('
      · subst opened
        rw [quoted_eq_none (by decide)]
        rfl
      by_cases closed : c = ')'
      · subst closed
        rw [quoted_eq_none (by decide)]
        rfl
      by_cases comma : c = ','
      · subst comma
        rw [quoted_eq_none (by decide)]
        rfl
      simp only [if_neg digit, if_neg opened, if_neg closed, if_neg comma]
      by_cases quote : c = '\''
      · subst quote
        have noOperator : Scan.operator? ('\'' :: cs) = none := rfl
        rw [quoted_eq, noOperator]
        cases Scan.quoted? cs with
        | none => rfl
        | some read => rfl
      · rw [quoted_eq_none quote, if_neg quote]
        cases Scan.operator? (c :: cs) with
        | none => rfl
        | some read => rfl

/-- A token takes at least one character, so that reading one after the other ends. -/
theorem token_shorter {cs rest : List Char} {first : Token} (taken : token cs = some (first, rest)) :
    rest.length < cs.length := by
  rw [token_eq] at taken
  cases scanned : Scan.token cs with
  | ok read =>
    rw [scanned] at taken
    cases taken
    exact Scan.token_length scanned
  | error stop =>
    rw [scanned] at taken
    obtain ⟨⟨name, behind⟩, named, same⟩ := Option.map_eq_some_iff.mp taken
    cases same
    exact Scan.name?_length named

/-! ## Whole expressions -/

/-- As many tokens as there are, `token*`, each with the gap that is skipped before it, and what is left
behind the last of them. -/
def tokens (cs : List Char) : List Lexeme × List Char :=
  match _ : token (cs.dropWhile Scan.isGap) with
  | none => ([], cs)
  | some (first, rest) =>
    let (others, left) := tokens rest
    (⟨cs.takeWhile Scan.isGap, first⟩ :: others, left)
termination_by cs.length
decreasing_by
  have shorter := token_shorter ‹token (cs.dropWhile Scan.isGap) = some (first, rest)›
  have notLonger := List.length_dropWhile_le Scan.isGap cs
  omega

/-- Tokens up to the end of the text, where only a gap may follow. -/
def expression (cs : List Char) : Option Scanned :=
  let (lexemes, left) := tokens cs
  if (left.dropWhile Scan.isGap).isEmpty then some ⟨lexemes, left⟩ else none

theorem tokens_of_none {cs : List Char} (apart : token (cs.dropWhile Scan.isGap) = none) :
    tokens cs = ([], cs) := by
  rw [tokens]
  split
  · rfl
  · rename_i taken
    rw [apart] at taken
    cases taken

theorem tokens_of_some {cs rest : List Char} {first : Token}
    (taken : token (cs.dropWhile Scan.isGap) = some (first, rest)) :
    tokens cs = (⟨cs.takeWhile Scan.isGap, first⟩ :: (tokens rest).1, (tokens rest).2) := by
  rw [tokens]
  split
  · rename_i apart
    rw [apart] at taken
    cases taken
  · rename_i again
    rw [taken] at again
    cases again
    rfl

/-- One token more in front does not change whether the end is reached. -/
theorem expression_of_some {cs rest : List Char} {first : Token}
    (taken : token (cs.dropWhile Scan.isGap) = some (first, rest)) :
    expression cs = (expression rest).map fun scanned =>
      { scanned with lexemes := ⟨cs.takeWhile Scan.isGap, first⟩ :: scanned.lexemes } := by
  simp only [expression, tokens_of_some taken]
  cases ((tokens rest).2.dropWhile Scan.isGap).isEmpty with
  | true => rfl
  | false => rfl

theorem expression_of_none {cs : List Char} (apart : token (cs.dropWhile Scan.isGap) = none) :
    expression cs = if (cs.dropWhile Scan.isGap).isEmpty then some ⟨[], cs⟩ else none := by
  simp only [expression, tokens_of_none apart]

/-- No token starts with a dot, so nothing that is left there can be read to its end. -/
theorem expression_dot (rest : List Char) : expression ('.' :: rest) = none := by
  have whole : ('.' :: rest).dropWhile Scan.isGap = '.' :: rest := rfl
  have apart : token ('.' :: rest) = none := by
    rw [token_eq]
    rfl
  rw [expression_of_none (by rw [whole]; exact apart), whole]
  rfl

/-- Where the scanner stops behind a name, the name is followed by a dot. -/
theorem dot_of_named_error {name rest : List Char} {stop : Stop}
    (stopped : Scan.named name rest = .error stop) : ∃ behind, rest = '.' :: behind := by
  fun_cases Scan.named name rest with
  | case1 | case3 | case4 => simp_all [Scan.named]
  | case2 behind => exact ⟨behind, rfl⟩

/-- The scanner reads the grammar: it accepts the same texts, and cuts each of them into the same tokens
at the same places. -/
theorem expression_eq (cs : List Char) : expression cs = (Scan.lexemes cs).toOption := by
  fun_induction Scan.lexemes cs with
  | case1 cs empty =>
    have apart : token (cs.dropWhile Scan.isGap) = none := by
      rw [empty]
      rfl
    rw [expression_of_none apart, empty]
    rfl
  | case2 cs c rest front stop stopped =>
    have read := token_eq (c :: rest)
    rw [stopped] at read
    cases named : Scan.name? (c :: rest) with
    | none =>
      rw [named, ← front] at read
      rw [expression_of_none read, front]
      rfl
    | some found =>
      obtain ⟨name, behind⟩ := found
      rw [Scan.token_of_name named] at stopped
      obtain ⟨after, rfl⟩ := dot_of_named_error stopped
      rw [named, ← front] at read
      rw [expression_of_some read, expression_dot]
      rfl
  | case3 cs c rest front first after found stop stopped ih =>
    have read := token_eq (c :: rest)
    rw [found, ← front] at read
    rw [expression_of_some read, ih, stopped]
    rfl
  | case4 cs c rest front first after found scanned later ih =>
    have read := token_eq (c :: rest)
    rw [found, ← front] at read
    rw [expression_of_some read, ih, later]
    rfl

/-- The scanner of expressions accepts what the grammar accepts, and reads it in the same way. -/
theorem toOption_scan (source : String) :
    (Expression.scan source).toOption = expression source.toList := by
  rw [expression_eq, Expression.scan]
  cases Scan.lexemes source.toList with
  | ok scanned => rfl
  | error stop => rfl

end Superstep.Grammar
