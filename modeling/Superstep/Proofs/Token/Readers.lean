import Mathlib.Data.List.TakeWhile
import Superstep.Proofs.Token.Grammar

/-!
# What the readers of the scanner take

Each reader takes a text of its shape off the front and leaves the rest (`name?_ok`, `number_ok`,
`quoted?_ok`, `operator?_ok`), and no longer text of that shape stands there (`name?_of_prefix`,
`number_longest`, `quoted?_of_prefix`, `operator?_of_prefix`).
-/

namespace Superstep

namespace Scan

open Text

/-- What is taken is a name, and nothing of the text is lost. -/
theorem name?_ok {cs name rest : List Char} (found : name? cs = some (name, rest)) :
    isName name = true ∧ cs = name ++ rest := by
  cases cs with
  | nil => cases found
  | cons c cs =>
    rw [name?] at found
    split at found
    · rename_i start
      cases found
      refine ⟨?_, ?_⟩
      · rw [isName, start, Bool.true_and, List.all_eq_true]
        exact fun _ member => List.mem_takeWhile_imp member
      · rw [List.cons_append, List.takeWhile_append_dropWhile]
    · cases found

theorem name?_start {c : Char} {cs name rest : List Char}
    (found : name? (c :: cs) = some (name, rest)) : isNameStart c = true := by
  rw [name?] at found
  split at found
  · assumption
  · cases found

theorem name?_none {c : Char} {cs : List Char} (found : name? (c :: cs) = none) :
    isNameStart c = false := by
  cases start : isNameStart c with
  | false => rfl
  | true =>
    rw [name?, if_pos start] at found
    cases found

/-- A name at the front is part of the name that is taken, and all of it if it ends there. -/
theorem name?_of_prefix (word suffix cs : List Char) (held : isName word = true)
    (stops : ∀ c, suffix.head? = some c → isNameChar c = false) (front : word ++ suffix <+: cs) :
    ∃ name rest, name? cs = some (name, rest) ∧
      (suffix = [] ∧ word <+: name ∨ suffix ≠ [] ∧ word = name ∧ suffix <+: rest) := by
  cases word with
  | nil => cases held
  | cons c others =>
    obtain ⟨start, inside⟩ := Bool.and_eq_true_iff.mp held
    cases cs with
    | nil => exact absurd (List.prefix_nil.mp front) (List.cons_ne_nil _ _)
    | cons d cs =>
      obtain ⟨rfl, behind⟩ := List.cons_prefix_cons.mp front
      refine ⟨_, _, by rw [name?, if_pos start], ?_⟩
      rcases prefix_run isNameChar others suffix cs (List.all_eq_true.mp inside) stops behind with
        ⟨empty, run⟩ | ⟨some, run, rest⟩
      · exact .inl ⟨empty, List.cons_prefix_cons.mpr ⟨rfl, run⟩⟩
      · exact .inr ⟨some, by rw [← run], rest⟩

theorem name?_append (word suffix : List Char) (held : isName word = true)
    (stops : ∀ c, suffix.head? = some c → isNameChar c = false) :
    name? (word ++ suffix) = some (word, suffix) := by
  obtain ⟨name, rest, found, either⟩ :=
    name?_of_prefix word suffix _ held stops (List.prefix_refl _)
  have cut := (name?_ok found).2
  rcases either with ⟨rfl, front⟩ | ⟨_, rfl, _⟩
  · obtain ⟨more, rfl⟩ := front
    rw [List.append_nil, List.append_assoc, List.self_eq_append_right, List.append_eq_nil_iff] at cut
    rw [found, cut.1, cut.2, List.append_nil]
  · rw [found, List.append_cancel_left cut]

theorem name?_self (word : List Char) (held : isName word = true) :
    name? word = some (word, []) := by
  have alone := name?_append word [] held (by simp)
  rwa [List.append_nil] at alone

theorem name?_longest (word cs : List Char) (held : isName word = true) (front : word <+: cs) :
    ∃ name rest, name? cs = some (name, rest) ∧ word.length ≤ name.length := by
  obtain ⟨name, rest, found, either⟩ :=
    name?_of_prefix word [] cs held (by simp) (by rwa [List.append_nil])
  rcases either with ⟨_, run⟩ | ⟨some, _⟩
  · exact ⟨name, rest, found, run.length_le⟩
  · exact absurd rfl some

theorem digits_takeWhile (cs : List Char) (some : (cs.takeWhile Char.isDigit).isEmpty = false) :
    Digits (cs.takeWhile Char.isDigit) :=
  ⟨List.isEmpty_eq_false_iff.mp some, fun _ member => List.mem_takeWhile_imp member⟩

theorem fraction_ok (cs : List Char) :
    Fraction (fraction cs).1 ∧ cs = (fraction cs).1 ++ (fraction cs).2 := by
  unfold fraction
  split
  · rename_i cs
    split
    · exact ⟨.absent, rfl⟩
    · rename_i some
      refine ⟨.present _ (digits_takeWhile cs (Bool.not_eq_true _ ▸ some)), ?_⟩
      rw [List.cons_append, List.takeWhile_append_dropWhile]
  · exact ⟨.absent, rfl⟩

theorem sign_ok (cs : List Char) :
    ((sign cs).1 = [] ∨ (sign cs).1 = ['+'] ∨ (sign cs).1 = ['-']) ∧
      cs = (sign cs).1 ++ (sign cs).2 := by
  unfold sign
  split <;> simp

theorem exponent_ok (cs : List Char) :
    Exponent (exponent cs).1 ∧ cs = (exponent cs).1 ++ (exponent cs).2 := by
  cases cs with
  | nil => exact ⟨.absent, rfl⟩
  | cons c cs =>
    obtain ⟨signs, signed⟩ := sign_ok cs
    simp only [exponent]
    split
    · rename_i marked
      simp only [Bool.and_eq_true, Bool.or_eq_true, decide_eq_true_eq, Bool.not_eq_true'] at marked
      refine ⟨.present c _ _ marked.1 signs (digits_takeWhile _ marked.2), ?_⟩
      rw [List.cons_append, List.append_assoc, List.takeWhile_append_dropWhile, ← signed]
    · exact ⟨.absent, rfl⟩

/-- What is taken is a number, and nothing of the text is lost. -/
theorem number_ok (c : Char) (cs : List Char) (digit : c.isDigit = true) :
    Numeral (number (c :: cs)).1 ∧ c :: cs = (number (c :: cs)).1 ++ (number (c :: cs)).2 := by
  obtain ⟨point, fractional⟩ := fraction_ok ((c :: cs).dropWhile Char.isDigit)
  obtain ⟨scale, scaled⟩ := exponent_ok (fraction ((c :: cs).dropWhile Char.isDigit)).2
  have some : ((c :: cs).takeWhile Char.isDigit).isEmpty = false := by
    rw [List.takeWhile_cons_of_pos digit]
    rfl
  simp only [number, List.append_assoc]
  refine ⟨.parts _ _ _ (digits_takeWhile _ some) point scale, ?_⟩
  rw [← scaled, ← fractional, List.takeWhile_append_dropWhile]

/-- A sign that digits follow is the one that is read. -/
theorem sign_of_prefix (signed digits cs : List Char)
    (signs : signed = [] ∨ signed = ['+'] ∨ signed = ['-']) (held : Digits digits)
    (front : signed ++ digits <+: cs) : (sign cs).1 = signed ∧ digits <+: (sign cs).2 := by
  rcases signs with rfl | rfl | rfl
  · cases digits with
    | nil => exact absurd rfl held.1
    | cons d digits =>
      obtain ⟨more, rfl⟩ := front
      have digit : d.isDigit = true := held.2 d List.mem_cons_self
      have unsigned : sign (d :: (digits ++ more)) = ([], d :: (digits ++ more)) := by
        unfold sign
        split
        · rename_i same
          rw [(List.cons.inj same).1] at digit
          cases digit
        · rename_i same
          rw [(List.cons.inj same).1] at digit
          cases digit
        · rfl
      rw [List.nil_append, List.cons_append, unsigned]
      exact ⟨rfl, List.prefix_append (d :: digits) more⟩
  · obtain ⟨more, rfl⟩ := front
    exact ⟨rfl, List.prefix_append digits more⟩
  · obtain ⟨more, rfl⟩ := front
    exact ⟨rfl, List.prefix_append digits more⟩

theorem digits_prefix (digits cs : List Char) (held : Digits digits) (front : digits <+: cs) :
    digits <+: cs.takeWhile Char.isDigit ∧ (cs.takeWhile Char.isDigit).isEmpty = false := by
  rcases prefix_run Char.isDigit digits [] cs held.2 (by simp) (by simpa using front) with
    ⟨_, run⟩ | ⟨some, _⟩
  · refine ⟨run, List.isEmpty_eq_false_iff.mpr ?_⟩
    intro empty
    rw [empty, List.prefix_nil] at run
    exact held.1 run
  · exact absurd rfl some

theorem exponent_longest (scale cs : List Char) (held : Exponent scale) (front : scale <+: cs) :
    scale.length ≤ (exponent cs).1.length := by
  cases held with
  | absent => exact Nat.zero_le _
  | present mark signed digits marks signs held =>
    cases cs with
    | nil => exact absurd (List.prefix_nil.mp front) (List.cons_ne_nil _ _)
    | cons c cs =>
      obtain ⟨rfl, behind⟩ := List.cons_prefix_cons.mp front
      obtain ⟨same, unsigned⟩ := sign_of_prefix signed digits cs signs held behind
      obtain ⟨run, some⟩ := digits_prefix digits _ held unsigned
      have marked : (mark = 'e' || mark = 'E') = true := by simpa using marks
      have length := run.length_le
      simp only [exponent, marked, some, same, Bool.not_false, Bool.and_true, if_true,
        List.length_cons, List.length_append]
      omega

/-- A number goes on behind its whole part as far as it can. -/
theorem fraction_longest (point scale cs : List Char) (fractional : Fraction point)
    (scaled : Exponent scale) (front : point ++ scale <+: cs) :
    point.length + scale.length ≤
      (fraction cs).1.length + (exponent (fraction cs).2).1.length := by
  cases fractional with
  | absent =>
    -- Where a point stands, no exponent starts.
    by_cases unpointed : fraction cs = ([], cs)
    · have bound := exponent_longest scale cs scaled front
      rw [unpointed]
      simpa using bound
    · cases scaled with
      | absent => simp
      | present mark signed digits marks signs held =>
        obtain ⟨more, rfl⟩ := front
        rcases marks with rfl | rfl <;> exact absurd rfl unpointed
  | present digits held =>
    cases cs with
    | nil => exact absurd (List.prefix_nil.mp front) (List.cons_ne_nil _ _)
    | cons c cs =>
      obtain ⟨rfl, behind⟩ := List.cons_prefix_cons.mp front
      have reached := digits_prefix digits cs held
        (List.IsPrefix.trans (List.prefix_append digits scale) behind)
      have read : fraction ('.' :: cs) =
          ('.' :: cs.takeWhile Char.isDigit, cs.dropWhile Char.isDigit) := by
        simp only [fraction, reached.2, Bool.false_eq_true, if_false]
      rw [read]
      rcases prefix_run Char.isDigit digits scale cs held.2 scaled.stops behind with
        ⟨rfl, run⟩ | ⟨_, run, rest⟩
      · have length := run.length_le
        simp only [List.length_cons, List.length_nil]
        omega
      · have bound := exponent_longest scale _ scaled rest
        simp only [List.length_cons, ← run]
        omega

/-- No longer number stands at the front. -/
theorem number_longest (numeral cs : List Char) (held : Numeral numeral) (front : numeral <+: cs) :
    numeral.length ≤ (number cs).1.length := by
  cases held with
  | parts whole point scale held fractional scaled =>
    have stops : ∀ c, (point ++ scale).head? = some c → c.isDigit = false := by
      intro c first
      cases fractional with
      | absent => exact scaled.stops c first
      | present =>
        obtain rfl := Option.some.inj first
        decide
    simp only [number, List.length_append]
    rcases prefix_run Char.isDigit whole (point ++ scale) cs held.2 stops front with
      ⟨empty, run⟩ | ⟨_, run, rest⟩
    · have length := run.length_le
      have none := congrArg List.length empty
      simp only [List.length_append, List.length_nil] at none
      omega
    · have bound := fraction_longest point scale _ fractional scaled rest
      have length := congrArg List.length run
      omega

theorem number_self (numeral : List Char) (held : Numeral numeral) :
    number numeral = (numeral, []) := by
  obtain ⟨c, others, rfl, digit⟩ := Numeral.head numeral held
  have bound := number_longest _ _ held (List.prefix_refl _)
  have cut := (number_ok c others digit).2
  have none : (number (c :: others)).2 = [] := by
    have length := congrArg List.length cut
    rw [List.length_append] at length
    exact List.length_eq_zero_iff.mp (by omega)
  rw [none, List.append_nil] at cut
  exact Prod.ext cut.symm none

/-- What is taken has no quote in it, and a quote stands behind it. -/
theorem quoted?_ok {cs content rest : List Char} (found : quoted? cs = some (content, rest)) :
    '\'' ∉ content ∧ cs = content ++ '\'' :: rest := by
  induction cs generalizing content rest with
  | nil => cases found
  | cons c cs ih =>
    rw [quoted?] at found
    split at found
    · rename_i quote
      cases found
      exact ⟨List.not_mem_nil, by rw [quote, List.nil_append]⟩
    · rename_i other
      obtain ⟨⟨inside, after⟩, later, same⟩ := Option.map_eq_some_iff.mp found
      cases same
      obtain ⟨free, rfl⟩ := ih later
      refine ⟨?_, rfl⟩
      intro member
      rcases List.mem_cons.mp member with quote | inner
      · exact other quote.symm
      · exact free inner

theorem quoted?_append (content rest : List Char) (free : '\'' ∉ content) :
    quoted? (content ++ '\'' :: rest) = some (content, rest) := by
  induction content with
  | nil => rfl
  | cons c content ih =>
    rw [List.mem_cons, not_or] at free
    rw [List.cons_append, quoted?, if_neg (Ne.symm free.1), ih free.2]
    rfl

theorem quoted?_of_prefix (content cs : List Char) (free : '\'' ∉ content)
    (front : content ++ ['\''] <+: cs) : ∃ rest, quoted? cs = some (content, rest) := by
  obtain ⟨rest, rfl⟩ := front
  refine ⟨rest, ?_⟩
  rw [List.append_assoc, List.singleton_append]
  exact quoted?_append content rest free

theorem operator?_ok {cs rest : List Char} {op : Operator}
    (found : operator? cs = some (op, rest)) : cs = op.text.toList ++ rest := by
  unfold operator? at found
  split at found <;> cases found <;> rfl

/-- Three operators are the first characters of longer ones, and are operators all the same. -/
theorem operator?_of_single (c : Char) (single : c ∈ ['<', '>', '=']) (cs : List Char) :
    ∃ longest rest, operator? (c :: cs) = some (longest, rest) := by
  simp only [List.mem_cons, List.not_mem_nil, or_false] at single
  cases found : operator? (c :: cs) with
  | some read => exact ⟨read.1, read.2, rfl⟩
  | none =>
    unfold operator? at found
    -- In the last case the text has none of the fronts that the patterns of `operator?` name.
    split at found <;> try cases found
    rename_i notLess notGreater notEqual _ _ _ _ _
    rcases single with rfl | rfl | rfl
    · exact absurd rfl (notLess cs)
    · exact absurd rfl (notGreater cs)
    · exact absurd rfl (notEqual cs)

/-- Where an operator stands, one is taken that is at least as long. -/
theorem operator?_of_prefix (op : Operator) (cs : List Char) (front : op.text.toList <+: cs) :
    ∃ longest rest, operator? cs = some (longest, rest) ∧
      op.text.toList.length ≤ longest.text.toList.length := by
  obtain ⟨rest, rfl⟩ := front
  have nonempty : ∀ longest : Operator, 1 ≤ longest.text.toList.length := by
    intro longest
    cases longest <;> decide
  have single : ∀ c, c ∈ ['<', '>', '='] → op.text.toList = [c] →
      ∃ longest after, operator? (op.text.toList ++ rest) = some (longest, after) ∧
        op.text.toList.length ≤ longest.text.toList.length := by
    intro c member spelled
    obtain ⟨longest, after, read⟩ := operator?_of_single c member rest
    rw [spelled]
    exact ⟨longest, after, read, nonempty longest⟩
  cases op with
  | doubleEqual | bangEqual | angles | atMost | atLeast | plus | minus | times | divide | modulo =>
    exact ⟨_, rest, rfl, Nat.le_refl _⟩
  | less => exact single '<' (by decide) rfl
  | greater => exact single '>' (by decide) rfl
  | equal => exact single '=' (by decide) rfl

theorem word_text (chars : List Char) : (word chars).text.toList = chars := by
  unfold word
  split
  · rename_i connective found
    have spelled : connective.text = String.ofList chars := by
      unfold Connective.ofText? at found
      split_ifs at found with isAnd isOr isNot
      · cases found
        exact isAnd.symm
      · cases found
        exact isOr.symm
      · cases found
        exact isNot.symm
    rw [Token.text, spelled, String.toList_ofList]
  · exact String.toList_ofList

theorem word_formed (chars : List Char) (held : isName chars = true) : (word chars).WellFormed := by
  unfold word
  split
  · trivial
  · rename_i plain
    change Expression.isIdentifier (String.ofList chars) = true
    cases chars with
    | nil => cases held
    | cons c cs =>
      rw [Expression.isIdentifier, String.toList_ofList, plain]
      exact Bool.and_eq_true_iff.mpr ⟨held, rfl⟩

/-- An identifier is a name, and no connective. -/
theorem word_of_identifier (name : String) (held : Expression.isIdentifier name = true) :
    isName name.toList = true ∧ word name.toList = .ident name := by
  unfold Expression.isIdentifier at held
  split at held
  · cases held
  · rename_i c cs spelled
    obtain ⟨plain, free⟩ := Bool.and_eq_true_iff.mp held
    refine ⟨?_, ?_⟩
    · rw [spelled]
      exact plain
    · rw [word, String.ofList_toList, Option.isNone_iff_eq_none.mp free]

end Scan

end Superstep
