import Superstep.Json.Read
import Superstep.Json.Text
import Superstep.Proofs.Text.Cutting

/-!
# Compact texts are self-delimiting

A value ends where its compact text says that it does: quotes are escaped inside of texts, numbers are
followed by a mark that is no part of numbers, and brackets close what they opened. So one text cannot
be the compact text of two values, also if something follows it. Numbers with a fraction are left out,
because blocks and plans have none.
-/

namespace Superstep.Json

open Text

/-- The values without numbers that have a fraction. -/
inductive Exact : Json → Prop where
  | null : Exact .null
  | bool (value : Bool) : Exact (.bool value)
  | int (value : Int) : Exact (.int value)
  | text (value : String) : Exact (.text value)
  | list (items : List Json) (held : ∀ item ∈ items, Exact item) : Exact (.list items)
  | record (fields : List (String × Json)) (held : ∀ field ∈ fields, Exact field.2) :
      Exact (.record fields)

/-- What may follow a value within another one. -/
def Follows (rest : List Char) : Prop := ∀ c, rest.head? = some c → c ∈ [',', ']', '\x7d']

theorem hexValue?_hexDigit (digit : Nat) (bound : digit < 16) :
    hexValue? (hexDigit digit) = some digit := by
  have all : ∀ d : Fin 16, hexValue? (hexDigit d) = some d.val := by decide
  exact all ⟨digit, bound⟩

/-- The four digits that a control character is escaped with are read back as the character. -/
theorem textFrom_control (c : Char) (control : c.toNat < 0x20) (taken rest : List Char) :
    textFrom (.unit 4 0 none) taken
        ('0' :: '0' :: hexDigit (c.toNat / 16) :: hexDigit (c.toNat % 16) :: rest) =
      textFrom .plain (c :: taken) rest := by
  have zero : hexValue? '0' = some 0 := by decide
  have high := hexValue?_hexDigit (c.toNat / 16) (by omega)
  have low := hexValue?_hexDigit (c.toNat % 16) (by omega)
  have digits : 16 * (c.toNat / 16) + c.toNat % 16 = c.toNat := Nat.div_add_mod c.toNat 16
  have unit : afterUnit? c.toNat none taken = some (.plain, c :: taken) := by
    have noHigh : ¬ 0xD800 ≤ c.toNat := by omega
    have noLow : ¬ 0xDC00 ≤ c.toNat := by omega
    simp [afterUnit?, noHigh, noLow, Char.ofNat_toNat]
  simp [textFrom, zero, high, low, digits, unit]

theorem textFrom_mark (mark c : Char) (short : mark ≠ 'u') (known : unescape? mark = some c)
    (taken rest : List Char) :
    textFrom .plain taken ('\\' :: mark :: rest) = textFrom .plain (c :: taken) rest := by
  simp [textFrom, short, known]

/-- Reading a text undoes the escape of one character. -/
theorem textFrom_escapeChar (c : Char) (taken rest : List Char) :
    textFrom .plain taken (escapeChar c ++ rest) = textFrom .plain (c :: taken) rest := by
  unfold escapeChar
  split_ifs with quotes slash back feed line carriage tab control
  any_goals subst c; exact textFrom_mark _ _ (by decide) rfl taken rest
  · simpa [textFrom] using textFrom_control c control taken rest
  · simp [textFrom, quotes, slash, control]

theorem textFrom_escaped (chars taken rest : List Char) :
    textFrom .plain taken (chars.flatMap escapeChar ++ '"' :: rest) =
      some (taken.reverse ++ chars, rest) := by
  induction chars generalizing taken with
  | nil => rw [List.flatMap_nil, List.nil_append, textFrom, if_pos rfl, List.append_nil]
  | cons c chars ih =>
    rw [List.flatMap_cons, List.append_assoc, textFrom_escapeChar, ih, List.reverse_cons,
      List.append_assoc, List.singleton_append]

theorem quote_delimits (one other : String) (rest behind : List Char)
    (same : quote one ++ rest = quote other ++ behind) : one = other ∧ rest = behind := by
  have inside : one.toList.flatMap escapeChar ++ '"' :: rest =
      other.toList.flatMap escapeChar ++ '"' :: behind := by simpa [quote] using same
  have read := textFrom_escaped one.toList [] rest
  rw [inside, textFrom_escaped, Option.some.injEq, Prod.mk.injEq] at read
  exact ⟨String.toList_inj.mp (List.append_cancel_left read.1).symm, read.2.symm⟩

/-- Nothing else has a text that could be taken for the text of this one, whatever follows. -/
def Delimited {α : Type} (held : α → Prop) (write : α → List Char) (one : α) : Prop :=
  ∀ other rest behind, held other → Follows rest → Follows behind →
    write one ++ rest = write other ++ behind → one = other ∧ rest = behind

def moreItems {α : Type} (write : α → List Char) (items : List α) : List Char :=
  items.flatMap fun item => ',' :: write item

def separated {α : Type} (write : α → List Char) : List α → List Char
  | [] => []
  | item :: items => write item ++ moreItems write items

section Separated

variable {α : Type} {held : α → Prop} {write : α → List Char} {close : Char}

theorem follows_moreItems (closes : close ∈ [']', '\x7d']) (items : List α) (rest : List Char) :
    Follows (moreItems write items ++ close :: rest) := by
  intro c first
  cases items with
  | nil =>
    obtain rfl : close = c := by simpa [moreItems] using first
    exact List.mem_cons_of_mem _ closes
  | cons item items =>
    obtain rfl : ',' = c := by simpa [moreItems] using first
    exact List.mem_cons_self

/-- Where the items of a list end can be told from the text, and so can the items. -/
theorem moreItems_delimits (closes : close ∈ [']', '\x7d']) (items others : List α)
    (rest behind : List Char) (delimited : ∀ item ∈ items, Delimited held write item)
    (othersHeld : ∀ other ∈ others, held other)
    (same : moreItems write items ++ close :: rest = moreItems write others ++ close :: behind) :
    items = others ∧ rest = behind := by
  have noComma : close ≠ ',' := by rintro rfl; exact absurd closes (by decide)
  induction items generalizing others with
  | nil =>
    cases others with
    | nil => exact ⟨rfl, (List.cons.inj same).2⟩
    | cons other others => exact absurd (List.cons.inj same).1 noComma
  | cons item items ih =>
    cases others with
    | nil => exact absurd (List.cons.inj same).1.symm noComma
    | cons other others =>
      rw [List.forall_mem_cons] at delimited othersHeld
      simp only [moreItems, List.flatMap_cons, List.cons_append, List.append_assoc,
        List.cons.injEq, true_and] at same
      obtain ⟨rfl, behindSame⟩ := delimited.1 other _ _ othersHeld.1
        (follows_moreItems closes items rest) (follows_moreItems closes others behind) same
      obtain ⟨rfl, restSame⟩ := ih others delimited.2 othersHeld.2 behindSame
      exact ⟨rfl, restSame⟩

/-- Items that are parted by commas and closed by a bracket can be told apart, if no item starts with
the bracket. -/
theorem separated_delimits (closes : close ∈ [']', '\x7d'])
    (opens : ∀ item, held item → ∀ rest behind, write item ++ rest ≠ close :: behind)
    (items others : List α) (rest behind : List Char) (itemsHeld : ∀ item ∈ items, held item)
    (delimited : ∀ item ∈ items, Delimited held write item)
    (othersHeld : ∀ other ∈ others, held other)
    (same : separated write items ++ close :: rest = separated write others ++ close :: behind) :
    items = others ∧ rest = behind := by
  cases items with
  | nil =>
    cases others with
    | nil => exact ⟨rfl, (List.cons.inj same).2⟩
    | cons other others =>
      rw [separated, separated, List.append_assoc] at same
      exact absurd same.symm (opens other (othersHeld other List.mem_cons_self) _ _)
  | cons item items =>
    cases others with
    | nil =>
      rw [separated, separated, List.append_assoc] at same
      exact absurd same (opens item (itemsHeld item List.mem_cons_self) _ _)
    | cons other others =>
      rw [List.forall_mem_cons] at delimited othersHeld
      rw [separated, separated, List.append_assoc, List.append_assoc] at same
      obtain ⟨rfl, behindSame⟩ := delimited.1 other _ _ othersHeld.1
        (follows_moreItems closes items rest) (follows_moreItems closes others behind) same
      obtain ⟨rfl, restSame⟩ :=
        moreItems_delimits closes items others rest behind delimited.2 othersHeld.2 behindSame
      exact ⟨rfl, restSame⟩

end Separated

/-- The items of a list are written with commas between them. -/
theorem compactItems_eq (items : List Json) : compactItems items = separated compact items := by
  induction items with
  | nil => rfl
  | cons item items ih =>
    cases items with
    | nil => simp [compactItems, separated, moreItems]
    | cons next items =>
      rw [compactItems, ih, separated, separated, moreItems, moreItems, List.flatMap_cons,
        List.cons_append]
      exact List.cons_ne_nil _ _

def fieldText (field : String × Json) : List Char := quote field.1 ++ ':' :: compact field.2

theorem compactFields_eq (fields : List (String × Json)) :
    compactFields fields = separated fieldText fields := by
  induction fields with
  | nil => rfl
  | cons field fields ih =>
    cases fields with
    | nil => simp [compactFields, separated, moreItems, fieldText]
    | cons next fields =>
      rw [compactFields, ih, separated, separated, moreItems, moreItems, List.flatMap_cons,
        List.cons_append]
      · rfl
      · exact List.cons_ne_nil _ _

inductive Shape where
  | null | bool | number | text | list | record
  deriving DecidableEq

def shape : Json → Shape
  | .null => .null
  | .bool _ => .bool
  | .int _ => .number
  | .real _ => .number
  | .text _ => .text
  | .list _ => .list
  | .record _ => .record

/-- The kind that the first character of a compact text tells. -/
def Shape.ofChar? (c : Char) : Option Shape :=
  if isNumberChar c then some .number
  else [('n', Shape.null), ('t', .bool), ('f', .bool), ('"', .text), ('[', .list),
    ('\x7b', .record)].lookup c

theorem intText_ofNat (n : Nat) : intText (.ofNat n) = Nat.toDigits 10 n := Nat.toList_repr

theorem intText_negSucc (n : Nat) : intText (.negSucc n) = '-' :: Nat.toDigits 10 (n + 1) := by
  have spelled : intText (.negSucc n) = ("-" ++ (n + 1).repr).toList := rfl
  rw [spelled, String.toList_append, Nat.toList_repr]
  rfl

theorem intText_ne_nil (value : Int) : intText value ≠ [] := by
  cases value with
  | ofNat n => rw [intText_ofNat]; exact Nat.toDigits_ne_nil
  | negSucc n => rw [intText_negSucc]; exact List.cons_ne_nil _ _

theorem isNumberChar_intText (value : Int) : ∀ c ∈ intText value, isNumberChar c = true := by
  have digits (n : Nat) : ∀ c ∈ Nat.toDigits 10 n, isNumberChar c = true := by
    intro c mem
    rw [isNumberChar, Nat.isDigit_of_mem_toDigits (by decide) (by decide) mem, Bool.true_or]
  cases value with
  | ofNat n => rw [intText_ofNat]; exact digits n
  | negSucc n => rw [intText_negSucc]; exact List.forall_mem_cons.mpr ⟨by decide, digits (n + 1)⟩

/-- Different integers are written differently. -/
theorem intText_injective (one other : Int) (same : intText one = intText other) : one = other := by
  have digits (m n : Nat) (spelled : Nat.toDigits 10 m = Nat.toDigits 10 n) : m = n := by
    rw [← @Nat.ofDigitChars_ten_toDigits m, spelled, Nat.ofDigitChars_ten_toDigits]
  have noSign (m n : Nat) : '-' :: Nat.toDigits 10 m ≠ Nat.toDigits 10 n := by
    intro spelled
    have sign : '-' ∈ Nat.toDigits 10 n := by rw [← spelled]; exact List.mem_cons_self
    exact absurd (Nat.isDigit_of_mem_toDigits (by decide) (by decide) sign) (by decide)
  cases one with
  | ofNat m =>
    cases other with
    | ofNat n =>
      rw [intText_ofNat, intText_ofNat] at same
      rw [digits m n same]
    | negSucc n =>
      rw [intText_ofNat, intText_negSucc] at same
      exact absurd same.symm (noSign _ m)
  | negSucc m =>
    cases other with
    | ofNat n =>
      rw [intText_ofNat, intText_negSucc] at same
      exact absurd same (noSign _ n)
    | negSucc n =>
      rw [intText_negSucc, intText_negSucc] at same
      rw [Nat.succ.inj (digits _ _ (List.cons.inj same).2)]

/-- The first character tells what kind of value it is. -/
theorem Exact.head {json : Json} (exact : Exact json) :
    ∃ c cs, compact json = c :: cs ∧ Shape.ofChar? c = some json.shape := by
  cases exact with
  | null => exact ⟨'n', ['u', 'l', 'l'], rfl, by decide⟩
  | bool value =>
    cases value with
    | false => exact ⟨'f', ['a', 'l', 's', 'e'], rfl, by decide⟩
    | true => exact ⟨'t', ['r', 'u', 'e'], rfl, by decide⟩
  | int value =>
    obtain ⟨c, cs, spelled⟩ := List.exists_cons_of_ne_nil (intText_ne_nil value)
    refine ⟨c, cs, by rw [compact, spelled], ?_⟩
    rw [Shape.ofChar?, if_pos (isNumberChar_intText value c (by simp [spelled])), shape]
  | text value => exact ⟨'"', _, by rw [compact_text, quote, List.cons_append], rfl⟩
  | list items => exact ⟨'[', _, by rw [compact, List.cons_append], rfl⟩
  | record fields => exact ⟨'\x7b', _, by rw [compact, List.cons_append], rfl⟩

theorem shape_eq_of_compact {one other : Json} {rest behind : List Char} (exact : Exact one)
    (otherExact : Exact other) (same : compact one ++ rest = compact other ++ behind) :
    one.shape = other.shape := by
  obtain ⟨c, cs, spelled, tells⟩ := exact.head
  obtain ⟨d, ds, otherSpelled, otherTells⟩ := otherExact.head
  rw [spelled, otherSpelled, List.cons_append, List.cons_append] at same
  rw [(List.cons.inj same).1, otherTells, Option.some.injEq] at tells
  exact tells.symm

theorem Follows.not_isNumberChar {rest : List Char} (follows : Follows rest) :
    ∀ c, rest.head? = some c → isNumberChar c = false := by
  intro c first
  have marks : [',', ']', '\x7d'].all (fun mark => !isNumberChar mark) = true := rfl
  simpa using List.all_eq_true.mp marks c (follows c first)

/-- A number ends where no character of a number follows. -/
theorem int_delimited (value : Int) : Delimited Exact compact (.int value) := by
  intro other rest behind otherExact follows otherFollows same
  have shapes := shape_eq_of_compact (.int value) otherExact same
  cases otherExact with
  | int otherValue =>
    rw [compact, compact] at same
    obtain ⟨texts, restSame⟩ := run_unique same (isNumberChar_intText value)
      (isNumberChar_intText otherValue) follows.not_isNumberChar otherFollows.not_isNumberChar
    exact ⟨by rw [intText_injective value otherValue texts], restSame⟩
  | _ => cases shapes

theorem text_delimited (value : String) : Delimited Exact compact (.text value) := by
  intro other rest behind otherExact _ _ same
  have shapes := shape_eq_of_compact (.text value) otherExact same
  cases otherExact with
  | text otherValue =>
    rw [compact_text, compact_text] at same
    obtain ⟨rfl, restSame⟩ := quote_delimits value otherValue rest behind same
    exact ⟨rfl, restSame⟩
  | _ => cases shapes

theorem bool_delimited (value : Bool) : Delimited Exact compact (.bool value) := by
  intro other rest behind otherExact _ _ same
  have shapes := shape_eq_of_compact (.bool value) otherExact same
  cases otherExact with
  | bool otherValue =>
    cases value <;> cases otherValue <;> simp_all [compact]
  | _ => cases shapes

theorem null_delimited : Delimited Exact compact .null := by
  intro other rest behind otherExact _ _ same
  have shapes := shape_eq_of_compact .null otherExact same
  cases otherExact with
  | null => exact ⟨rfl, List.append_cancel_left same⟩
  | _ => cases shapes

theorem Exact.head_ne_close {json : Json} (exact : Exact json) (rest behind : List Char) :
    compact json ++ rest ≠ ']' :: behind := by
  obtain ⟨c, cs, spelled, tells⟩ := exact.head
  intro same
  rw [spelled, List.cons_append] at same
  rw [(List.cons.inj same).1] at tells
  cases tells

/-- A list can be told from its text if its items can. -/
theorem list_delimited (items : List Json) (exact : ∀ item ∈ items, Exact item)
    (delimited : ∀ item ∈ items, Delimited Exact compact item) :
    Delimited Exact compact (.list items) := by
  intro other rest behind otherExact _ _ same
  have shapes := shape_eq_of_compact (.list items exact) otherExact same
  cases otherExact with
  | list others othersExact =>
    simp only [compact, compactItems_eq, List.cons_append, List.append_assoc, List.nil_append,
      List.cons.injEq, true_and] at same
    obtain ⟨rfl, restSame⟩ := separated_delimits (by decide)
      (fun item itemExact => itemExact.head_ne_close) items others rest behind exact delimited
      othersExact same
    exact ⟨rfl, restSame⟩
  | _ => cases shapes

theorem fieldText_delimited (field : String × Json) (delimited : Delimited Exact compact field.2) :
    Delimited (fun field => Exact field.2) fieldText field := by
  intro other rest behind otherExact follows otherFollows same
  rw [fieldText, fieldText, List.append_assoc, List.append_assoc] at same
  obtain ⟨names, behindNames⟩ := quote_delimits _ _ _ _ same
  obtain ⟨values, restSame⟩ := delimited other.2 rest behind otherExact follows otherFollows
    (List.cons.inj behindNames).2
  exact ⟨Prod.ext names values, restSame⟩

/-- A record can be told from its text if its values can, since its names are quoted. -/
theorem record_delimited (fields : List (String × Json)) (exact : ∀ field ∈ fields, Exact field.2)
    (delimited : ∀ field ∈ fields, Delimited Exact compact field.2) :
    Delimited Exact compact (.record fields) := by
  intro other rest behind otherExact _ _ same
  have shapes := shape_eq_of_compact (.record fields exact) otherExact same
  cases otherExact with
  | record others othersExact =>
    simp only [compact, compactFields_eq, List.cons_append, List.append_assoc, List.nil_append,
      List.cons.injEq, true_and] at same
    have opens (field : String × Json) (rest behind : List Char) :
        fieldText field ++ rest ≠ '\x7d' :: behind := by simp [fieldText, quote]
    obtain ⟨rfl, restSame⟩ := separated_delimits (by decide) (fun field _ => opens field) fields
      others rest behind exact (fun field mem => fieldText_delimited field (delimited field mem))
      othersExact same
    exact ⟨rfl, restSame⟩
  | _ => cases shapes

/-- Compact texts are self-delimiting. -/
theorem Exact.delimited {json : Json} (exact : Exact json) : Delimited Exact compact json := by
  induction exact with
  | null => exact null_delimited
  | bool value => exact bool_delimited value
  | int value => exact int_delimited value
  | text value => exact text_delimited value
  | list items exact delimited => exact list_delimited items exact delimited
  | record fields exact delimited => exact record_delimited fields exact delimited

/-- The compact text tells the value. -/
theorem toCompact_inj {one other : Json} (exact : Exact one) (otherExact : Exact other) :
    one.toCompact = other.toCompact ↔ one = other := by
  constructor
  · intro same
    have nothing : Follows [] := fun c first => by cases first
    have texts : one.compact ++ [] = other.compact ++ [] := by rw [String.ofList_injective same]
    exact (exact.delimited other [] [] otherExact nothing nothing texts).1
  · exact congrArg toCompact

end Superstep.Json
