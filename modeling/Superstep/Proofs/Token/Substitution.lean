import Superstep.Proofs.Text.Filling

/-!
# Filling in placeholders as a substitution of tokens

The text of an expression is searched for the texts of the placeholders, wherever they stand. The
tokens of the filled-in text are those of the expression with the placeholders among them exchanged,
except in three cases. A placeholder may begin inside of another token: in a quoted text, or in a
longer name. What is filled in may run into a letter behind it, which its field takes in. And a number
in front of it may take a context for its exponent. Without these it is a substitution, and with any
of them it is not.
-/

namespace Superstep

namespace Text

/-- A number does not go beyond a name that a dot follows. -/
theorem Numeral.not_beyond {longer digits name rest : List Char} (numeral : Numeral longer)
    (held : isName name = true) (front : longer <+: digits ++ name ++ '.' :: rest) :
    longer <+: digits ++ name := by
  rcases prefix_or_reaches front with inside | beyond
  · exact inside
  · obtain ⟨first, others, rfl, start⟩ := exists_start_of_isName held
    have digit := numeral.before_point beyond first (by simp)
    rw [isNameStart_of_isDigit first digit] at start
    cases start

theorem head_stops_iff (text : List Char) :
    (∀ c, text.head? = some c → isNameChar c = false) ↔ text.head?.any isNameChar = false := by
  cases text with
  | nil => simp
  | cons c text => simp

end Text

/-- The number at the front is the given one exactly if no number goes on behind it. -/
theorem Scan.number_append_eq_iff {digits : List Char} (numeral : Text.Numeral digits)
    (text : List Char) :
    (number (digits ++ text)).1 = digits ↔ ∀ longer, Text.Numeral longer →
      longer <+: digits ++ text → longer.length ≤ digits.length := by
  constructor
  · intro same longer isNumeral front
    have bound := number_longest longer _ isNumeral front
    rwa [same] at bound
  · intro bounded
    have atLeast := number_longest digits _ numeral (List.prefix_append digits text)
    obtain ⟨c, others, rfl, digit⟩ := Text.Numeral.head digits numeral
    obtain ⟨isNumeral, cut⟩ := number_ok c (others ++ text) digit
    have front : (number (c :: others ++ text)).1 <+: c :: others ++ text := ⟨_, cut.symm⟩
    have atMost := bounded _ isNumeral front
    have inside := List.prefix_of_prefix_length_le front (List.prefix_append _ _) atMost
    exact inside.eq_of_length (Nat.le_antisymm atMost atLeast)

namespace Token

open Text Expression

/-- The token with a placeholder exchanged for the value that it stands for. -/
def fill (context : String) : Token → Token
  | .placeholder name =>
    if name = "getAggregationVal" then .qualified context "val"
    else if name = "getVal" then .qualified Table.values "val"
    else .placeholder name
  | token => token

/-- A token that stands before `rest` is kept apart from it when the placeholders are filled in. -/
structure Fits (context : String) (token : Token) (rest : List Char) : Prop where
  /-- No letter or digit follows a placeholder. -/
  apart : token.fill context ≠ token → rest.head?.any isNameChar = false
  /-- No placeholder begins inside of another token. -/
  outside : token.fill context = token → ∀ word ∈ [combinedPlaceholder, valuePlaceholder],
    beginsIn word.toList token.text.toList rest = false
  /-- A number does not go on into the context that is filled in behind it. -/
  noExponent : ∀ digits, token = .number digits → combinedPlaceholder.toList <+: rest →
    (Scan.number (digits.toList ++ context.toList)).1 = digits.toList

/-- Filling in leaves a token alone, or makes a qualified name of a placeholder. -/
theorem fill_cases (context : String) (token : Token) :
    token.fill context = token ∨
      ∃ name table : String, Fills context.toList name.toList table.toList ∧
        token = .placeholder name ∧ token.fill context = .qualified table "val" := by
  cases token with
  | placeholder name =>
    rw [fill]
    split
    · rename_i same
      subst same
      exact .inr ⟨_, context, .combined, rfl, rfl⟩
    · split
      · rename_i same
        subst same
        exact .inr ⟨_, Table.values, .value, rfl, rfl⟩
      · exact .inl rfl
  | _ => exact .inl rfl

/-- A lexeme that ends with a name, of which it holds a `g` at least, can go on with a letter. -/
theorem WellFormed.extended {token : Token} (formed : token.WellFormed) (front back : List Char)
    (spelled : token.text.toList = front ++ 'g' :: back)
    (names : ∀ c ∈ back, isNameChar c = true) (c : Char) (goesOn : isNameChar c = true) :
    ∃ longer : Token, longer.WellFormed ∧ longer.text.toList = token.text.toList ++ [c] := by
  have all : ∀ d ∈ [c], isNameChar d = true := by simpa using goesOn
  have member : 'g' ∈ token.text.toList := by simp [spelled]
  have last : ∀ d, token.text.toList.getLast? = some d → isNameChar d = true := by
    intro d ends
    rw [spelled, List.getLast?_append_of_ne_nil _ (List.cons_ne_nil _ _)] at ends
    rcases List.mem_cons.mp (List.mem_of_getLast? ends) with rfl | inside
    · decide
    · exact names d inside
  have named : token.family = .named →
      ∃ longer : Token, longer.WellFormed ∧ longer.text.toList = token.text.toList ++ [c] := by
    intro family
    obtain ⟨name, suffix, parts, held, shape⟩ := formed.named_text family
    rw [parts]
    rcases shape with rfl | ⟨field, isField, rfl⟩ | rfl
    · rw [List.append_nil]
      exact ⟨Scan.word (name ++ [c]), Scan.word_formed _ (isName_append _ _ held all),
        Scan.word_text _⟩
    · refine ⟨.qualified (String.ofList name) (String.ofList (field ++ [c])), ?_, ?_⟩
      · exact ⟨by rwa [String.toList_ofList], by
          rw [String.toList_ofList]
          exact isName_append _ _ isField all⟩
      · simp [text]
    · exact absurd (last ')' (by simp [parts])) (by decide)
  cases token with
  | qualified | placeholder | keyword | ident => exact named rfl
  | number digits =>
    rcases Numeral.chars formed 'g' member with digit | mark
    · exact absurd digit (by decide)
    · exact absurd mark (by decide)
  | quoted content =>
    have ends : (Token.quoted content).text.toList = ('\'' :: content.toList) ++ ['\''] := by
      simp [text]
    exact absurd (last '\'' (by rw [ends, List.getLast?_concat])) (by decide)
  | operator op => cases op <;> exact absurd member (by decide)
  | openParen | closeParen | comma => exact absurd member (by decide)

section Fill

variable {context : List Char} (held : isName context = true)

include held

/-- A token stays the longest lexeme when the text behind it is filled in, unless it is a number that
goes on into a context. -/
theorem Longest.filled {token : Token} {source rest : List Char}
    (longest : token.Longest source rest)
    (noExponent : ∀ digits, token = .number digits → combinedPlaceholder.toList <+: rest →
      (Scan.number (digits.toList ++ context)).1 = digits.toList) :
    token.Longest (token.text.toList ++ fillChars context rest) (fillChars context rest) := by
  refine ⟨longest.formed, rfl, ?_⟩
  intro other formed front
  have whole := fillChars_append_cases held rest []
  rw [List.append_nil] at whole
  rcases whole with none | ⟨common, back, behind, name, table, fills, rfl, _, begins, filled⟩
  · have same := fillChars_append_of_beginsIn held rest [] none
    rw [show fillChars context [] = [] from rfl, List.append_nil] at same
    rw [same, ← longest.split] at front
    exact longest.longest other formed front
  · obtain ⟨more, spelled, _⟩ := fills.name_eq
    obtain ⟨first, others, heads, start⟩ := exists_start_of_isName (fills.table_isName held)
    rw [List.append_nil] at begins
    have begun : back = 'g' :: (more ++ ['(', ')'] ++ behind) := by
      rw [begins, spelled]
      rfl
    rw [filled, ← List.append_assoc, heads, List.cons_append] at front
    rcases prefix_or_reaches front with short | reaches
    · exact longest.length_le formed short
    -- Only a number right before a context is left.
    · rw [begun] at longest
      obtain ⟨rfl, ⟨digits, rfl⟩, longer, rfl⟩ :=
        longest.number_of_reached formed (by decide) start reaches
      cases fills with
      | value =>
        obtain ⟨rfl, _⟩ := List.cons.inj heads
        rcases Numeral.mark_of_isNameStart formed _ (reaches.subset (by simp)) start with same | same
        · exact absurd same (by decide)
        · exact absurd same (by decide)
      | combined =>
        have read := noExponent digits rfl ⟨behind, begins.symm⟩
        refine (Scan.number_append_eq_iff longest.formed context).mp read _ formed ?_
        have field : (Token.number digits).text.toList ++ [] ++
            first :: (others ++ (".val".toList ++ fillChars context behind)) =
            digits.toList ++ context ++ '.' :: ("val".toList ++ fillChars context behind) := by
          simp [heads, text]
        rw [field] at front
        exact Numeral.not_beyond formed held front

/-- If a token is read again at the front of the filled-in text and the text behind it can be read
too, then no placeholder began in the token. What is filled in would go on in a way that makes the
token longer, or come to a dot right behind it. -/
theorem Longest.not_begun {token : Token} {rest behind : List Char} {tokens : List Token}
    (longest : token.Longest (fillChars context (token.text.toList ++ rest)) behind)
    (later : Munch behind tokens) :
    ∀ name table, Fills context name table →
      beginsIn (call name) token.text.toList rest = false := by
  rcases fillChars_append_cases held token.text.toList rest with
    none | ⟨front, back, after, name, table, fills, split, some, begins, filled⟩
  · exact none
  exfalso
  have goesOn : back ++ behind = table ++ '.' :: ("val".toList ++ fillChars context after) := by
    have whole := longest.split
    rw [filled, split, List.append_assoc] at whole
    exact (List.append_cancel_left whole).symm
  have tableChars := isNameChar_of_isName table (fills.table_isName held)
  obtain ⟨inName, inTable⟩ := fills.common_front held begins goesOn
  obtain ⟨extra, rfl⟩ := inTable
  have left : behind = extra ++ '.' :: ("val".toList ++ fillChars context after) := by
    rw [List.append_assoc] at goesOn
    exact List.append_cancel_left goesOn
  cases extra with
  | nil =>
    rw [left] at later
    exact later.head_ne_dot rfl
  | cons c extra =>
    obtain ⟨first, rest, rfl⟩ := List.exists_cons_of_ne_nil some
    obtain ⟨more, rfl, _⟩ := fills.name_eq
    obtain ⟨rfl, _⟩ := List.cons_prefix_cons.mp inName
    have restChars : ∀ d ∈ rest, isNameChar d = true := fun d member =>
      tableChars d (List.mem_append_left _ (List.mem_cons_of_mem _ member))
    obtain ⟨longer, formed, text⟩ := longest.formed.extended front rest split restChars c
      (tableChars c (by simp))
    have none := longest.not_extended formed [c] _ text left
    cases none

end Fill

section Token

variable {token : Token} {context : String} (held : isName context.toList = true)
  {source rest : List Char} (longest : token.Longest source rest) (tokens : List Token)

include held longest

/-- A token that is kept is read again, with the filled-in text behind it, exactly if it fits. -/
theorem Longest.kept_iff (same : token.fill context = token) :
    (∃ behind, token.Longest (fillChars context.toList source) behind ∧ Munch behind tokens) ↔
      token.Fits context rest ∧ Munch (fillChars context.toList rest) tokens := by
  rw [longest.split]
  constructor
  · rintro ⟨behind, again, later⟩
    have none := again.not_begun held later
    have kept := fillChars_append_of_beginsIn held _ _ none
    obtain rfl := List.append_cancel_left (kept.symm.trans again.split)
    refine ⟨⟨fun changed => absurd same changed, ?_, ?_⟩, later⟩
    · intro _ word member
      rcases List.mem_cons.mp member with rfl | second
      · exact none _ _ .combined
      · rw [List.mem_singleton.mp second]
        exact none _ _ .value
    · rintro digits rfl ⟨after, rfl⟩
      rw [Scan.number_append_eq_iff longest.formed]
      intro longer numeral front
      have lexeme : (Token.number (String.ofList longer)).WellFormed := by
        change Numeral (String.ofList longer).toList
        rwa [String.toList_ofList]
      have bound := again.longest _ lexeme
      rw [kept, combinedPlaceholder_eq, fillChars_call held .combined, text, text,
        String.toList_ofList, ← List.append_assoc] at bound
      exact bound (front.trans (List.prefix_append _ _))
  · rintro ⟨fits, later⟩
    have none : ∀ name table, Fills context.toList name table →
        beginsIn (call name) token.text.toList rest = false := by
      intro name table fills
      cases fills with
      | combined => exact fits.outside same _ List.mem_cons_self
      | value => exact fits.outside same _ (List.mem_cons_of_mem _ List.mem_cons_self)
    rw [fillChars_append_of_beginsIn held _ _ none]
    exact ⟨_, longest.filled held fits.noExponent, later⟩

/-- What stands in the place of a placeholder is read, with the filled-in text behind it, exactly if
no letter or digit follows. -/
theorem Longest.exchanged_iff {name table : String}
    (fills : Fills context.toList name.toList table.toList) (spelled : token = .placeholder name)
    (filled : token.fill context = .qualified table "val") :
    (∃ behind, (Token.qualified table "val").Longest (fillChars context.toList source) behind ∧
        Munch behind tokens) ↔
      token.Fits context rest ∧ Munch (fillChars context.toList rest) tokens := by
  have written : fillChars context.toList source =
      (Token.qualified table "val").text.toList ++ fillChars context.toList rest := by
    have call : token.text.toList = call name.toList := by simp [spelled, text, call]
    rw [longest.split, call, fillChars_call held fills]
    simp [text]
  rw [written]
  constructor
  · rintro ⟨behind, again, later⟩
    obtain rfl := List.append_cancel_left again.split
    refine ⟨⟨?_, ?_, ?_⟩, later⟩
    · intro _
      rw [← head_fillChars held, ← head_stops_iff]
      exact again.stops (.inr ⟨table, "val", rfl⟩)
    · intro same
      rw [filled, spelled] at same
      cases same
    · intro digits same
      rw [spelled] at same
      cases same
  · rintro ⟨fits, later⟩
    have changed : token.fill context ≠ token := by
      rw [filled, spelled]
      intro same
      cases same
    have stops := fits.apart changed
    rw [← head_fillChars held, ← head_stops_iff] at stops
    have formed : (Token.qualified table "val").WellFormed :=
      ⟨fills.table_isName held, by decide⟩
    exact ⟨_, Scan.token_longest (Scan.token_qualified table "val" _ formed stops), later⟩

/-- The filled-in text begins with the token that the substitution asks for, and can be read behind
it, exactly if the token fits. -/
theorem Longest.fill_iff :
    (∃ behind, (token.fill context).Longest (fillChars context.toList source) behind ∧
        Munch behind tokens) ↔
      token.Fits context rest ∧ Munch (fillChars context.toList rest) tokens := by
  rcases fill_cases context token with same | ⟨name, table, fills, spelled, filled⟩
  · rw [same]
    exact longest.kept_iff held tokens same
  · rw [filled]
    exact longest.exchanged_iff held tokens fills spelled filled

end Token

end Token

/-- What holds at every place of a list holds at its first place and at those behind it. -/
theorem forall_split_cons_iff {α : Type} (holds : α → List α → Prop) (first : α) (others : List α) :
    (∀ before item later, first :: others = before ++ item :: later → holds item later) ↔
      holds first others ∧
        ∀ before item later, others = before ++ item :: later → holds item later := by
  constructor
  · intro all
    exact ⟨all [] first others rfl, fun before item later split =>
      all (first :: before) item later (congrArg (first :: ·) split)⟩
  · rintro ⟨here, behind⟩ before item later split
    cases before with
    | nil =>
      obtain ⟨rfl, rfl⟩ := List.cons.inj split
      exact here
    | cons _ before => exact behind before item later (List.cons.inj split).2

namespace Scan

open Text Token Expression

/-- A gap in front is skipped before the first lexeme is taken. -/
theorem munch_gap_append_iff {gap text : List Char} (blank : gap.all isGap = true)
    (noGap : ∀ c, text.head? = some c → isGap c = false) (lexeme : Token) (tokens : List Token) :
    Munch (gap ++ text) (lexeme :: tokens) ↔
      ∃ rest, lexeme.Longest text rest ∧ Munch rest tokens := by
  constructor
  · generalize whole : gap ++ text = source
    intro munch
    cases munch with
    | take other behind rest _ _ otherBlank longest later =>
      have stops : ∀ c, behind.head? = some c → isGap c = false := by
        obtain ⟨first, others, rfl, apart, _⟩ := longest.head
        intro c same
        rwa [← Option.some.inj same]
      obtain ⟨_, rfl⟩ := run_unique whole (List.all_eq_true.mp blank)
        (List.all_eq_true.mp otherBlank) noGap stops
      exact ⟨rest, longest, later⟩
  · rintro ⟨rest, longest, later⟩
    exact .take gap text rest lexeme tokens blank longest later

variable {context : String} (held : isName context.toList = true)

include held

/-- Gaps are left alone. -/
theorem fillChars_gap_append {gap : List Char} (blank : gap.all isGap = true) (rest : List Char) :
    fillChars context.toList (gap ++ rest) = gap ++ fillChars context.toList rest := by
  apply fillChars_append_of_beginsIn held
  intro name table fills
  obtain ⟨more, rfl, _⟩ := fills.name_eq
  apply beginsIn_of_not_mem
  intro member
  exact absurd (List.all_eq_true.mp blank 'g' member) (by decide)

theorem fillChars_noGap (text : List Char) (noGap : ∀ c, text.head? = some c → isGap c = false) :
    ∀ c, (fillChars context.toList text).head? = some c → isGap c = false := by
  intro c first
  rcases head_fillChars_cases held text with same | ⟨_, d, new, start⟩
  · exact noGap c (same ▸ first)
  · obtain rfl := Option.some.inj (new.symm.trans first)
    cases gap : isGap d with
    | false => rfl
    | true =>
      have noName := (gap_apart d gap).1
      rw [isNameChar_of_isNameStart d start] at noName
      cases noName

/-- The filled-in text is cut up into the exchanged tokens exactly if every token fits. -/
theorem munch_fill_iff {cs : List Char} {scanned : Scanned} (read : lexemes cs = .ok scanned) :
    Munch (fillChars context.toList cs) (scanned.tokens.map (Token.fill context)) ↔
      ∀ before lexeme later, scanned.lexemes = before ++ lexeme :: later →
        lexeme.token.Fits context (Scanned.text ⟨later, scanned.tail⟩) := by
  fun_induction lexemes cs generalizing scanned with
  | case1 cs empty =>
    cases read
    have blank : cs.all isGap = true :=
      List.all_eq_true.mpr (List.dropWhile_eq_nil_iff.mp empty)
    have same : fillChars context.toList cs = cs := by
      have kept := fillChars_gap_append held blank []
      rwa [List.append_nil, show fillChars context.toList [] = [] from rfl, List.append_nil] at kept
    rw [same]
    refine ⟨fun _ before lexeme later split => ?_, fun _ => .done cs blank⟩
    cases before <;> cases split
  | case2 => cases read
  | case3 => cases read
  | case4 cs c rest front first after found scanned later ih =>
    cases read
    have blank : (cs.takeWhile isGap).all isGap = true :=
      List.all_eq_true.mpr fun _ member => List.mem_takeWhile_imp member
    have parts : cs = cs.takeWhile isGap ++ (c :: rest) := by
      rw [← front, List.takeWhile_append_dropWhile]
    have noGap : ∀ d, (c :: rest).head? = some d → isGap d = false := by
      intro d same
      rw [← front] at same
      exact head?_dropWhile isGap cs d same
    have behind : Scanned.text ⟨scanned.lexemes, scanned.tail⟩ = after := (lexemes_lossless later).1
    refine Iff.trans ?_ (forall_split_cons_iff (fun (lexeme : Lexeme) later =>
      lexeme.token.Fits context (Scanned.text ⟨later, scanned.tail⟩)) _ _).symm
    rw [← ih later, behind, ← (token_longest found).fill_iff held]
    nth_rewrite 1 [parts]
    rw [fillChars_gap_append held blank]
    exact munch_gap_append_iff blank (fillChars_noGap held _ noGap) _ _

end Scan

namespace Expression

/-- Filling in the placeholders of a text exchanges the placeholders among its tokens exactly if every
token fits to the text behind it. -/
theorem fill_substitutes_exactly (source context : String) (scanned : Scanned)
    (scans : scan source = .ok scanned) (held : Text.isName context.toList = true) :
    (∃ filled, scan (fillPlaceholders source context) = .ok filled ∧
        filled.tokens = scanned.tokens.map (Token.fill context)) ↔
      ∀ before lexeme later, scanned.lexemes = before ++ lexeme :: later →
        lexeme.token.Fits context (Scanned.text ⟨later, scanned.tail⟩) := by
  rw [scan_tokens_iff, toList_fillPlaceholders]
  exact Scan.munch_fill_iff held ((scan_ok_iff _ _).mp scans)

/-- A number that has an exponent already, and placeholders between operators. -/
theorem fill_substitutes_exactly_operators :
    ∃ filled, scan (fillPlaceholders "1e5getAggregationVal()<getVal()" "e5") = .ok filled ∧
      filled.tokens = [.number "1e5", .qualified "e5" "val", .operator .less,
        .qualified "next" "val"] := by
  have scans : scan "1e5getAggregationVal()<getVal()" = .ok ⟨[⟨[], .number "1e5"⟩,
      ⟨[], .placeholder "getAggregationVal"⟩, ⟨[], .operator .less⟩, ⟨[], .placeholder "getVal"⟩],
      []⟩ := by decide +kernel
  refine (fill_substitutes_exactly _ "e5" _ scans (by decide)).mpr ?_
  simp only [forall_split_cons_iff fun (lexeme : Lexeme) later =>
    lexeme.token.Fits "e5" (Scanned.text ⟨later, []⟩)]
  refine ⟨⟨by decide, by decide, ?_⟩, ⟨by decide, by decide, nofun⟩, ⟨by decide, by decide, nofun⟩,
    ⟨by decide, by decide, nofun⟩, ?_⟩
  · rintro digits ⟨rfl⟩ _
    decide
  · intro before lexeme later split
    cases before <;> cases split

/-- The text can be cut up, but filling it in does not only exchange its placeholders. -/
def Misfilled (source context : String) : Prop :=
  isIdentifier context = true ∧ ∃ scanned, scan source = .ok scanned ∧
    ¬ ∃ filled, scan (fillPlaceholders source context) = .ok filled ∧
      filled.tokens = scanned.tokens.map (Token.fill context)

theorem misfilled_of_tokens (source context : String) (isContext : isIdentifier context = true)
    (differ : (scan source).toOption.map (fun scanned =>
      decide ((scan (fillPlaceholders source context)).toOption.map (·.tokens) =
        some (scanned.tokens.map (Token.fill context)))) = some false) :
    Misfilled source context := by
  obtain ⟨scanned, found, unequal⟩ := Option.map_eq_some_iff.mp differ
  refine ⟨isContext, scanned, ok_of_toOption _ _ found, ?_⟩
  rintro ⟨filled, scans, same⟩
  refine of_decide_eq_false unequal ?_
  rw [scans, ← same]
  rfl

/-- A placeholder in a quoted text, one at the end of a longer name and of a field, one with a letter
behind it, and one behind a number that takes its context for an exponent. -/
theorem not_substituted :
    Misfilled "'getVal()'" "cur" ∧ Misfilled "xgetVal()" "cur" ∧ Misfilled "a.getVal()" "cur" ∧
      Misfilled "getVal()abc" "cur" ∧ Misfilled "1getAggregationVal()" "e5" := by
  have isCombined : isIdentifier "cur" = true := by decide
  exact ⟨misfilled_of_tokens _ _ isCombined (by decide +kernel),
    misfilled_of_tokens _ _ isCombined (by decide +kernel),
    misfilled_of_tokens _ _ isCombined (by decide +kernel),
    misfilled_of_tokens _ _ isCombined (by decide +kernel),
    misfilled_of_tokens _ _ (by decide) (by decide +kernel)⟩

end Expression

end Superstep
