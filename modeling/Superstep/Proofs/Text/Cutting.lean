import Mathlib.Data.List.DropRight
import Superstep.Text.Blank
import Superstep.Text.Name
import Superstep.Text.Search

/-!
# Trimming and cutting texts

Trimming finds the one text without blanks at its ends that stands between blanks. Cutting finds the
one place that has no mark before it, or none behind it. Both directions are stated, so that readers
are followed with them as well as the texts that are written for them. A text that is cut at every mark
is put together again from its pieces.
-/

namespace Superstep.Text

/-- A text with no blank at either end. The empty text is one. -/
structure Trimmed (cs : List Char) : Prop where
  front : ∀ c, cs.head? = some c → isBlank c = false
  back : ∀ c, cs.getLast? = some c → isBlank c = false

theorem dropWhile_of_head (holds : Char → Bool) (cs : List Char)
    (stops : ∀ c, cs.head? = some c → holds c = false) : cs.dropWhile holds = cs := by
  cases cs with
  | nil => rfl
  | cons c cs => exact List.dropWhile_cons_of_neg (by simp [stops c rfl])

theorem head?_dropWhile (holds : Char → Bool) (cs : List Char) (c : Char)
    (first : (cs.dropWhile holds).head? = some c) : holds c = false := by
  have stopped := List.head?_dropWhile_not holds cs
  rwa [first] at stopped

/-- A run of characters and what follows it can be told apart in one way. -/
theorem run_unique {holds : Char → Bool} {one other rest behind : List Char}
    (same : one ++ rest = other ++ behind) (held : ∀ c ∈ one, holds c = true)
    (otherHeld : ∀ c ∈ other, holds c = true) (stops : ∀ c, rest.head? = some c → holds c = false)
    (otherStops : ∀ c, behind.head? = some c → holds c = false) : one = other ∧ rest = behind := by
  have left : (one ++ rest).dropWhile holds = rest := by
    rw [List.dropWhile_append_of_pos held, dropWhile_of_head holds rest stops]
  have right : (other ++ behind).dropWhile holds = behind := by
    rw [List.dropWhile_append_of_pos otherHeld, dropWhile_of_head holds behind otherStops]
  have behindSame : rest = behind := by rw [← left, same, right]
  rw [behindSame] at same
  exact ⟨List.append_cancel_right same, behindSame⟩

theorem trimEnd_append_blanks (cs : List Char) :
    ∃ blanks, cs = trimEnd cs ++ blanks ∧ allBlank blanks = true := by
  refine ⟨cs.rtakeWhile isBlank, List.rdropWhile_append_rtakeWhile.symm, ?_⟩
  exact List.all_eq_true.mpr fun _ member => List.mem_rtakeWhile_imp member

theorem trimEnd_back (cs : List Char) (c : Char) (last : (trimEnd cs).getLast? = some c) :
    isBlank c = false := by
  refine head?_dropWhile isBlank cs.reverse c ?_
  rw [← List.getLast?_reverse]
  exact last

theorem trim_trimmed (cs : List Char) : Trimmed (trim cs) := by
  constructor
  · intro c first
    obtain ⟨blanks, split, _⟩ := trimEnd_append_blanks (trimStart cs)
    refine head?_dropWhile isBlank cs c ?_
    change (trimStart cs).head? = some c
    rw [split, List.head?_append]
    change (trimEnd (trimStart cs)).head? = some c at first
    rw [first]
    rfl
  · exact trimEnd_back (trimStart cs)

/-- Only the blanks around a text are taken off. -/
theorem trim_between (front core back : List Char) (trimmed : Trimmed core)
    (blankFront : allBlank front = true) (blankBack : allBlank back = true) :
    trim (front ++ (core ++ back)) = core := by
  have inFront := List.all_eq_true.mp blankFront
  have inBack := List.all_eq_true.mp blankBack
  rw [trim, trimStart, List.dropWhile_append_of_pos inFront]
  cases core with
  | nil =>
    rw [List.nil_append, List.dropWhile_eq_nil_iff.mpr inBack]
    rfl
  | cons c core =>
    have opens : ∀ d, (c :: core ++ back).head? = some d → isBlank d = false := trimmed.front
    have closes : ∀ d, (c :: core).reverse.head? = some d → isBlank d = false := by
      rw [List.head?_reverse]
      exact trimmed.back
    rw [dropWhile_of_head isBlank _ opens, trimEnd, List.reverse_append,
      List.dropWhile_append_of_pos (by simpa using inBack), dropWhile_of_head isBlank _ closes,
      List.reverse_reverse]

/-- Trimming finds the trimmed text that stands between blanks. -/
theorem trim_eq_iff (cs core : List Char) :
    trim cs = core ↔ Trimmed core ∧ ∃ front back, cs = front ++ (core ++ back) ∧
      allBlank front = true ∧ allBlank back = true := by
  constructor
  · rintro rfl
    refine ⟨trim_trimmed cs, ?_⟩
    obtain ⟨back, split, blankBack⟩ := trimEnd_append_blanks (trimStart cs)
    refine ⟨cs.takeWhile isBlank, back, ?_, ?_, blankBack⟩
    · calc cs = cs.takeWhile isBlank ++ trimStart cs := List.takeWhile_append_dropWhile.symm
        _ = cs.takeWhile isBlank ++ (trim cs ++ back) := by rw [trim, ← split]
    · exact List.all_eq_true.mpr fun _ member => List.mem_takeWhile_imp member
  · rintro ⟨trimmed, front, back, rfl, blankFront, blankBack⟩
    exact trim_between front core back trimmed blankFront blankBack

/-- Blanks around a text are trimmed off together with its own. -/
theorem trim_padded (front cs back : List Char) (blankFront : allBlank front = true)
    (blankBack : allBlank back = true) : trim (front ++ (cs ++ back)) = trim cs := by
  obtain ⟨trimmed, before, behind, split, blankBefore, blankBehind⟩ := (trim_eq_iff cs _).mp rfl
  refine (trim_eq_iff _ _).mpr ⟨trimmed, front ++ before, behind ++ back, ?_, ?_, ?_⟩
  · nth_rewrite 1 [split]
    simp only [List.append_assoc]
  · rw [allBlank, List.all_append, ← allBlank, ← allBlank, blankFront, blankBefore]
    rfl
  · rw [allBlank, List.all_append, ← allBlank, ← allBlank, blankBehind, blankBack]
    rfl

/-- Trimming leaves the first word of a text at its front. -/
theorem trim_marked (blanks mark more : List Char) (blank : allBlank blanks = true)
    (trimmed : Trimmed mark) (some : mark ≠ []) :
    trim (blanks ++ (mark ++ more)) = mark ++ trimEnd more := by
  obtain ⟨tail, split, blankTail⟩ := trimEnd_append_blanks more
  refine (trim_eq_iff _ _).mpr ⟨⟨?_, ?_⟩, blanks, tail, ?_, blank, blankTail⟩
  · intro c first
    rw [List.head?_append_of_ne_nil _ some] at first
    exact trimmed.front c first
  · intro c last
    rw [List.getLast?_append, Option.or_eq_some_iff] at last
    rcases last with inMore | ⟨_, inMark⟩
    · exact trimEnd_back more c inMore
    · exact trimmed.back c inMark
  · nth_rewrite 1 [split]
    rw [List.append_assoc]

theorem trimEnd_trimmed (cs : List Char) (opens : ∀ c, cs.head? = some c → isBlank c = false) :
    Trimmed (trimEnd cs) := by
  have whole := trim_trimmed cs
  rwa [trim, trimStart, dropWhile_of_head isBlank cs opens] at whole

theorem Trimmed.trim_eq {cs : List Char} (trimmed : Trimmed cs) : trim cs = cs := by
  have between := trim_between [] cs [] trimmed rfl rfl
  rwa [List.nil_append, List.append_nil] at between

theorem Trimmed.trim_space_cons {cs : List Char} (trimmed : Trimmed cs) : trim (' ' :: cs) = cs := by
  have between := trim_between [' '] cs [] trimmed (by decide) rfl
  rwa [List.append_nil] at between

theorem Trimmed.trimEnd_eq {cs : List Char} (trimmed : Trimmed cs) : trimEnd cs = cs := by
  have whole := trimmed.trim_eq
  rwa [trim, trimStart, dropWhile_of_head isBlank cs trimmed.front] at whole

/-- A text with a character that is no blank put at both ends. -/
theorem Trimmed.enclosed (first last : Char) (middle : List Char) (opens : isBlank first = false)
    (closes : isBlank last = false) : Trimmed (first :: (middle ++ [last])) := by
  constructor
  · intro c same
    obtain rfl := Option.some.inj same
    exact opens
  · intro c same
    rw [← List.cons_append, List.getLast?_concat, Option.some.injEq] at same
    rw [← same]
    exact closes

/-- Texts that are trimmed, with anything between them. -/
theorem Trimmed.joined {first last : List Char} (middle : List Char) (opens : Trimmed first)
    (closes : Trimmed last) (opened : first ≠ []) (closed : last ≠ []) :
    Trimmed (first ++ (middle ++ last)) := by
  constructor
  · intro c same
    rw [List.head?_append_of_ne_nil _ opened] at same
    exact opens.front c same
  · intro c same
    rw [← List.append_assoc, List.getLast?_append_of_ne_nil _ closed] at same
    exact closes.back c same

/-- No character of a name is blank. -/
theorem isBlank_of_isNameChar (c : Char) (held : isNameChar c = true) : isBlank c = false := by
  have digits : c.isDigit = (decide (48 ≤ c.val) && decide (c.val ≤ 57)) := rfl
  have letters : c.isAlpha = (decide (65 ≤ c.val ∧ c.val ≤ 90) ||
      decide (97 ≤ c.val) && decide (c.val ≤ 122)) := rfl
  have bounds : c = '_' ∨ 48 ≤ c.toNat ∧ c.toNat ≤ 122 := by
    rw [isNameChar, Char.isAlphanum, digits, letters] at held
    simp [UInt32.le_iff_toNat_le] at held
    rcases held with ranges | underscore
    · right
      omega
    · exact .inl underscore
  rcases bounds with rfl | ⟨low, high⟩
  · decide
  · simp [isBlank, blankRanges]
    omega

theorem isNameChar_of_isBlank (c : Char) (blank : isBlank c = true) : isNameChar c = false := by
  cases held : isNameChar c with
  | false => rfl
  | true =>
    rw [isBlank_of_isNameChar c held] at blank
    cases blank

/-- No name goes on behind blanks and a mark that is no part of names. -/
theorem not_isNameChar_head {blanks rest : List Char} {mark c : Char}
    (blank : allBlank blanks = true) (apart : isNameChar mark = false)
    (first : (blanks ++ mark :: rest).head? = some c) : isNameChar c = false := by
  cases blanks with
  | nil =>
    obtain rfl := Option.some.inj first
    exact apart
  | cons d blanks =>
    obtain rfl := Option.some.inj first
    exact isNameChar_of_isBlank d (List.all_eq_true.mp blank d List.mem_cons_self)

theorem trimmed_of_not_isBlank (cs : List Char) (solid : ∀ c ∈ cs, isBlank c = false) :
    Trimmed cs :=
  ⟨fun c first => solid c (List.mem_of_head? first),
    fun c last => solid c (List.mem_of_getLast? last)⟩

theorem Trimmed.singleton (c : Char) (solid : isBlank c = false) : Trimmed [c] :=
  trimmed_of_not_isBlank [c] (by simpa using solid)

theorem trimmed_of_isNameChar (cs : List Char) (held : ∀ c ∈ cs, isNameChar c = true) :
    Trimmed cs :=
  trimmed_of_not_isBlank cs fun c member => isBlank_of_isNameChar c (held c member)

/-- The text is cut where no mark stands before. -/
theorem cutFirst_ok {mark : Char} {cs before after : List Char}
    (found : cutFirst mark cs = some (before, after)) :
    cs = before ++ mark :: after ∧ mark ∉ before := by
  induction cs generalizing before after with
  | nil => cases found
  | cons c cs ih =>
    rw [cutFirst] at found
    split_ifs at found with here
    · cases found
      exact ⟨by rw [here, List.nil_append], List.not_mem_nil⟩
    · obtain ⟨⟨front, behind⟩, later, same⟩ := Option.map_eq_some_iff.mp found
      cases same
      obtain ⟨rfl, free⟩ := ih later
      refine ⟨rfl, ?_⟩
      rw [List.mem_cons, not_or]
      exact ⟨fun same => here same.symm, free⟩

theorem cutFirst_append {mark : Char} (before after : List Char) (free : mark ∉ before) :
    cutFirst mark (before ++ mark :: after) = some (before, after) := by
  induction before with
  | nil => rw [List.nil_append, cutFirst, if_pos rfl]
  | cons c before ih =>
    rw [List.mem_cons, not_or] at free
    rw [List.cons_append, cutFirst, if_neg fun same => free.1 same.symm, ih free.2]
    rfl

theorem cutLast_of_not_mem {mark : Char} (cs : List Char) (free : mark ∉ cs) :
    cutLast mark cs = none := by
  induction cs with
  | nil => rfl
  | cons c cs ih =>
    rw [List.mem_cons, not_or] at free
    rw [cutLast, ih free.2]
    exact if_neg fun same => free.1 same.symm

theorem cutLast_append {mark : Char} (before after : List Char) (free : mark ∉ after) :
    cutLast mark (before ++ mark :: after) = some (before, after) := by
  induction before with
  | nil => rw [List.nil_append, cutLast, cutLast_of_not_mem after free, if_pos rfl]
  | cons c before ih => rw [List.cons_append, cutLast, ih]

theorem pieces_ne_nil (mark : Char) (text : List Char) : pieces mark text ≠ [] := by
  induction text with
  | nil => exact List.cons_ne_nil _ _
  | cons c text ih =>
    rw [pieces]
    split
    · exact List.cons_ne_nil _ _
    · exact mt List.modifyHead_eq_nil_iff.mp ih

/-- What stands before a mark and what stands behind it are cut up apart. -/
theorem pieces_append_mark (mark : Char) (before after : List Char) :
    pieces mark (before ++ mark :: after) = pieces mark before ++ pieces mark after := by
  induction before with
  | nil => exact if_pos rfl
  | cons c before ih =>
    rw [List.cons_append, pieces, pieces, ih]
    split
    · rfl
    · obtain ⟨piece, others, split⟩ := List.exists_cons_of_ne_nil (pieces_ne_nil mark before)
      rw [split]
      rfl

/-- A front without marks belongs to the first piece. -/
theorem pieces_append_of_not_mem {mark : Char} (front text : List Char) (free : mark ∉ front) :
    pieces mark (front ++ text) = (pieces mark text).modifyHead (front ++ ·) := by
  induction front with
  | nil => exact (congrFun List.modifyHead_id _).symm
  | cons c front ih =>
    rw [List.mem_cons, not_or] at free
    rw [List.cons_append, pieces, if_neg (Ne.symm free.1), ih free.2, List.modifyHead_modifyHead]
    rfl

theorem pieces_of_not_mem {mark : Char} (cs : List Char) (free : mark ∉ cs) :
    pieces mark cs = [cs] := by
  have whole := pieces_append_of_not_mem cs [] free
  rwa [List.append_nil, pieces, List.modifyHead_cons, List.append_nil] at whole

theorem pieces_append {mark : Char} (before after : List Char) (free : mark ∉ before) :
    pieces mark (before ++ mark :: after) = before :: pieces mark after := by
  rw [pieces_append_mark, pieces_of_not_mem before free, List.singleton_append]

theorem intercalate_modifyHead (word front : List Char) (pieces : List (List Char))
    (some : pieces ≠ []) :
    word.intercalate (pieces.modifyHead (front ++ ·)) = front ++ word.intercalate pieces := by
  obtain ⟨piece, others, rfl⟩ := List.exists_cons_of_ne_nil some
  rw [List.modifyHead_cons]
  cases others with
  | nil => rw [List.intercalate_singleton, List.intercalate_singleton]
  | cons second others => simp only [List.intercalate_cons_cons, List.append_assoc]

/-- The pieces with the mark between them are the text again. -/
theorem intercalate_pieces (mark : Char) (cs : List Char) :
    [mark].intercalate (pieces mark cs) = cs := by
  induction cs with
  | nil => rfl
  | cons c cs ih =>
    have some := pieces_ne_nil mark cs
    rw [pieces]
    split
    · rename_i here
      rw [List.intercalate_cons_of_ne_nil some, ih, here]
      rfl
    · have front := intercalate_modifyHead [mark] [c] (pieces mark cs) some
      rw [ih] at front
      exact front

end Superstep.Text
