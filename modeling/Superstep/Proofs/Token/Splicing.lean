import Mathlib.Data.List.Forall2
import Superstep.Proofs.Token.Renaming

/-!
# Words spliced into a text

When a table is renamed or a name is qualified, new words stand in the text where the old ones stood,
and the pieces around them are kept as they are. The changed text is cut up at the same places. So
renaming a table back finds the tables that were renamed, together with those that had the new name
from the start, and qualifying a name a second time finds nothing to qualify.
-/

namespace Superstep

namespace Text

variable (word : List Char) (pieces : List (List Char))

theorem length_intercalate (piece : List Char) :
    (word.intercalate (piece :: pieces)).length =
      (piece :: pieces).flatten.length + pieces.length * word.length := by
  induction pieces generalizing piece with
  | nil => simp
  | cons second others ih =>
    have flat : (piece :: second :: others).flatten.length =
        piece.length + (second :: others).flatten.length := by
      rw [List.flatten_cons, List.length_append]
    rw [List.intercalate_cons_cons, List.length_append, List.length_append, ih, flat,
      List.length_cons, Nat.succ_mul]
    omega

/-- Between two pieces or more, another word gives another text. -/
theorem eq_of_intercalate_eq (other first second : List Char)
    (same : word.intercalate (first :: second :: pieces) =
      other.intercalate (first :: second :: pieces)) : word = other := by
  have lengths := congrArg List.length same
  rw [length_intercalate, length_intercalate, Nat.add_left_cancel_iff, List.length_cons] at lengths
  have equal : word.length = other.length := Nat.eq_of_mul_eq_mul_left (Nat.succ_pos _) lengths
  rw [List.intercalate_cons_cons, List.intercalate_cons_cons, List.append_assoc, List.append_assoc,
    List.append_cancel_left_eq] at same
  exact (List.append_inj same equal).1

end Text

namespace Token

/-- A token, and what stands in its place when the tokens of one form are exchanged for those of
another. -/
inductive Exchanged (old new : String → Token) : Token → Token → Prop where
  | there (part : String) : Exchanged old new (old part) (new part)
  | elsewhere (token : Token) (other : ∀ part, token ≠ old part) : Exchanged old new token token

theorem Exchanged.eq_of_ne {old new : String → Token} {token changed : Token}
    (exchanged : Exchanged old new token changed) (other : ∀ part, token ≠ old part) :
    changed = token := by
  cases exchanged with
  | there part => exact absurd rfl (other part)
  | elsewhere => rfl

/-- What follows the table in a token that is qualified by it. -/
def behindTable? (table : String) (token : Token) : Option (List Char) :=
  match token with
  | .qualified other field => if other = table then some ('.' :: field.toList) else none
  | _ => none

/-- What follows the name in a token that is that name. -/
def behindName? (name : String) (token : Token) : Option (List Char) :=
  if token = .ident name then some [] else none

section Forms

variable (source target name field : String) (token : Token)

theorem repoint_exchanges :
    Exchanged (.qualified source) (.qualified target) token (token.repoint source target) := by
  cases token with
  | qualified table field =>
    by_cases same : table = source
    · rw [repoint, if_pos same, same]
      exact .there field
    · rw [repoint, if_neg same]
      refine .elsewhere _ ?_
      intro part equal
      exact same (Token.qualified.inj equal).1
  | _ =>
    refine .elsewhere _ ?_
    intro part equal
    cases equal

theorem qualify_exchanges :
    Exchanged (fun _ => .ident name) (fun _ => .qualified name field) token
      (token.qualify name field) := by
  cases token with
  | ident other =>
    by_cases same : other = name
    · rw [qualify, if_pos same, same]
      exact .there ""
    · rw [qualify, if_neg same]
      refine .elsewhere _ ?_
      intro _ equal
      exact same (Token.ident.inj equal)
  | _ =>
    refine .elsewhere _ ?_
    intro _ equal
    cases equal

theorem behindTable?_eq_some_iff (table : String) (suffix : List Char) :
    token.behindTable? table = some suffix ↔
      ∃ field, token = .qualified table field ∧ suffix = '.' :: field.toList := by
  cases token with
  | qualified other field =>
    by_cases same : other = table
    · simp [behindTable?, same, eq_comm]
    · simp [behindTable?, same]
  | _ => simp [behindTable?]

theorem behindName?_eq_some_iff (suffix : List Char) :
    token.behindName? name = some suffix ↔ token = .ident name ∧ suffix = [] := by
  by_cases same : token = .ident name
  · simp [behindName?, same, eq_comm]
  · simp [behindName?, same]

end Forms

end Token

/-- The pieces of a text around some of its words: before the first of them, between each two, and
behind the last. Each word is the start of a token, and `behind?` tells what follows it there. -/
def Scanned.around (behind? : Token → Option (List Char)) (scanned : Scanned) : List (List Char) :=
  scanned.lexemes.foldr
    (fun lexeme pieces =>
      match behind? lexeme.token with
      | some suffix => lexeme.gap :: pieces.modifyHead (suffix ++ ·)
      | none => pieces.modifyHead (lexeme.text ++ ·))
    [scanned.tail]

namespace Scanned

theorem mapTokens_mapTokens (first second : Token → Token) (scanned : Scanned) :
    (scanned.mapTokens first).mapTokens second = scanned.mapTokens (second ∘ first) := by
  simp [mapTokens]

theorem mapTokens_id (scanned : Scanned) : scanned.mapTokens id = scanned := by
  simp [mapTokens]

section Around

variable (behind? : Token → Option (List Char)) (tail : List Char)

theorem around_cons_of_some (first : Lexeme) (others : List Lexeme) (suffix : List Char)
    (marked : behind? first.token = some suffix) :
    around behind? ⟨first :: others, tail⟩ =
      first.gap :: (around behind? ⟨others, tail⟩).modifyHead (suffix ++ ·) := by
  simp [around, marked]

theorem around_cons_of_none (first : Lexeme) (others : List Lexeme)
    (plain : behind? first.token = none) :
    around behind? ⟨first :: others, tail⟩ =
      (around behind? ⟨others, tail⟩).modifyHead (first.text ++ ·) := by
  simp [around, plain]

/-- There is one piece more than there are words. -/
theorem length_around (scanned : Scanned) :
    (scanned.around behind?).length = scanned.tokens.countP (behind? · |>.isSome) + 1 := by
  obtain ⟨lexemes, tail⟩ := scanned
  induction lexemes with
  | nil => rfl
  | cons first others ih =>
    have tokens : tokens ⟨first :: others, tail⟩ = first.token :: tokens ⟨others, tail⟩ := rfl
    rw [tokens]
    cases marked : behind? first.token with
    | none =>
      rw [around_cons_of_none behind? tail first others marked, List.length_modifyHead, ih,
        List.countP_cons_of_neg (by simp [marked])]
    | some suffix =>
      rw [around_cons_of_some behind? tail first others suffix marked, List.length_cons,
        List.length_modifyHead, ih, List.countP_cons_of_pos (by simp [marked])]

theorem around_ne_nil (scanned : Scanned) : scanned.around behind? ≠ [] := by
  apply List.ne_nil_of_length_pos
  rw [length_around]
  exact Nat.succ_pos _

/-- A change that writes one word at all those places, and leaves the other tokens alone, writes that
word between the pieces. -/
theorem text_mapTokens (change : Token → Token) (word : List Char)
    (spelled : ∀ token suffix, behind? token = some suffix →
      (change token).text.toList = word ++ suffix)
    (kept : ∀ token, behind? token = none → change token = token) (scanned : Scanned) :
    (scanned.mapTokens change).text = word.intercalate (scanned.around behind?) := by
  obtain ⟨lexemes, tail⟩ := scanned
  induction lexemes with
  | nil => exact List.intercalate_singleton.symm
  | cons first others ih =>
    have changed : (mapTokens change ⟨first :: others, tail⟩).text =
        first.gap ++ ((change first.token).text.toList ++ (mapTokens change ⟨others, tail⟩).text) :=
      Scan.text_cons _ _ _
    have some := around_ne_nil behind? ⟨others, tail⟩
    rw [changed, ih]
    cases marked : behind? first.token with
    | none =>
      rw [around_cons_of_none behind? tail first others marked,
        Text.intercalate_modifyHead _ _ _ some, kept first.token marked, Lexeme.text,
        List.append_assoc]
    | some suffix =>
      -- The word ends the piece before it, and what follows it in its token starts the next one.
      have more : (around behind? ⟨others, tail⟩).modifyHead (suffix ++ ·) ≠ [] :=
        mt List.modifyHead_eq_nil_iff.mp some
      rw [around_cons_of_some behind? tail first others suffix marked,
        List.intercalate_cons_of_ne_nil more, Text.intercalate_modifyHead _ _ _ some,
        spelled first.token suffix marked]
      simp only [List.append_assoc]

end Around

variable (scanned : Scanned) (source target name field : String)

/-- The old word between the pieces gives the text as it was. -/
theorem text_eq_intercalate (behind? : Token → Option (List Char)) (word : List Char)
    (spelled : ∀ token suffix, behind? token = some suffix → token.text.toList = word ++ suffix) :
    scanned.text = word.intercalate (scanned.around behind?) := by
  have unchanged := text_mapTokens behind? id word spelled (fun _ _ => rfl) scanned
  rwa [mapTokens_id] at unchanged

theorem text_around_table :
    scanned.text = source.toList.intercalate (scanned.around (Token.behindTable? source)) := by
  apply text_eq_intercalate
  intro token suffix marked
  obtain ⟨field, rfl, rfl⟩ := (Token.behindTable?_eq_some_iff token source suffix).mp marked
  simp [Token.text]

theorem text_around_name :
    scanned.text = name.toList.intercalate (scanned.around (Token.behindName? name)) := by
  apply text_eq_intercalate
  intro token suffix marked
  obtain ⟨rfl, rfl⟩ := (Token.behindName?_eq_some_iff name token suffix).mp marked
  rw [Token.text, List.append_nil]

/-- Renaming puts the new table between the pieces that the old one stood between. -/
theorem toList_repoint :
    (scanned.repoint source target).toList =
      target.toList.intercalate (scanned.around (Token.behindTable? source)) := by
  rw [repoint, String.toList_ofList]
  apply text_mapTokens
  · intro token suffix marked
    obtain ⟨field, rfl, rfl⟩ := (Token.behindTable?_eq_some_iff token source suffix).mp marked
    simp [Token.repoint, Token.text]
  · intro token plain
    refine (token.repoint_exchanges source target).eq_of_ne ?_
    rintro field rfl
    simp [Token.behindTable?] at plain

/-- Qualifying puts the qualified name between the pieces that the bare one stood between. -/
theorem toList_qualify :
    (scanned.qualify name field).toList =
      (name ++ "." ++ field).toList.intercalate (scanned.around (Token.behindName? name)) := by
  rw [qualify, String.toList_ofList]
  apply text_mapTokens
  · intro token suffix marked
    obtain ⟨rfl, rfl⟩ := (Token.behindName?_eq_some_iff name token suffix).mp marked
    simp [Token.qualify, Token.text]
  · intro token plain
    refine (token.qualify_exchanges name field).eq_of_ne ?_
    rintro _ rfl
    simp [Token.behindName?] at plain

/-- Renaming a table back also renames those that had the new name from the start. -/
theorem repoint_back :
    (scanned.mapTokens (Token.repoint source target)).repoint target source =
      scanned.repoint target source := by
  have back : Token.repoint target source ∘ Token.repoint source target =
      Token.repoint target source := by
    funext token
    cases token with
    | qualified table field =>
      by_cases same : table = source
      · simp [Token.repoint, same]
      · simp [Token.repoint, same]
    | _ => rfl
  rw [repoint, mapTokens_mapTokens, back, repoint]

/-- A name that was qualified is no bare name any more. -/
theorem qualify_again (other : String) :
    (scanned.mapTokens (Token.qualify name field)).qualify name other =
      scanned.qualify name field := by
  have again : Token.qualify name other ∘ Token.qualify name field = Token.qualify name field := by
    funext token
    cases token with
    | ident bare =>
      by_cases same : bare = name
      · simp [Token.qualify, same]
      · simp [Token.qualify, same]
    | _ => rfl
  rw [qualify, mapTokens_mapTokens, again, qualify]

/-- There is a single piece exactly if the table is not named. -/
theorem length_around_table_iff :
    (scanned.around (Token.behindTable? source)).length = 1 ↔
      ∀ field, .qualified source field ∉ scanned.tokens := by
  rw [length_around, Nat.add_eq_right, List.countP_eq_zero]
  constructor
  · intro plain field member
    exact plain _ member (by simp [Token.behindTable?])
  · intro absent token member marked
    obtain ⟨suffix, found⟩ := Option.isSome_iff_exists.mp marked
    obtain ⟨field, rfl, _⟩ := (Token.behindTable?_eq_some_iff token source suffix).mp found
    exact absent field member

/-- A renaming keeps the text only if no table has the name, or if the new name is the old one. -/
theorem repoint_eq_text_iff :
    (scanned.repoint source target).toList = scanned.text ↔
      source = target ∨ ∀ field, .qualified source field ∉ scanned.tokens := by
  rw [toList_repoint, text_around_table scanned source, ← length_around_table_iff]
  cases split : scanned.around (Token.behindTable? source) with
  | nil => exact absurd split (around_ne_nil _ scanned)
  | cons first others =>
    cases others with
    | nil => simp
    | cons second others =>
      constructor
      · intro same
        exact .inl (String.toList_inj.mp (Text.eq_of_intercalate_eq _ _ _ _ _ same)).symm
      · rintro (rfl | single)
        · rfl
        · cases single

end Scanned

namespace Expression

/-- Renaming a table in an expression succeeds and renames it in the tokens, and the text around it is
kept. Renaming it back gives the expression again unless a table had the new name before. -/
theorem repoint_renames_tokens (expression source target : String) (scanned : Scanned)
    (scans : scan expression = .ok scanned) (held : Text.isName target.toList = true)
    (noExponent : ∀ c, target.toList.head? = some c → c ≠ 'e' ∧ c ≠ 'E') :
    ∃ text changed, (scan expression).map (·.repoint source target) = .ok text ∧
      scan text = .ok changed ∧
      List.Forall₂ (Token.Exchanged (.qualified source) (.qualified target))
        scanned.tokens changed.tokens ∧
      expression.toList =
        source.toList.intercalate (scanned.around (Token.behindTable? source)) ∧
      text.toList = target.toList.intercalate (scanned.around (Token.behindTable? source)) ∧
      ((scan text).map (·.repoint target source) = .ok expression ↔
        source = target ∨ ∀ field, .qualified target field ∉ scanned.tokens) := by
  have lossless := (Scan.lexemes_lossless ((scan_ok_iff _ _).mp scans)).1
  have rescans := scan_repoint scans source target held noExponent
  refine ⟨_, _, congrArg (Except.map (·.repoint source target)) scans, rescans, ?_, ?_, ?_, ?_⟩
  · rw [Scanned.tokens_mapTokens, List.forall₂_map_right_iff, List.forall₂_same]
    exact fun token _ => token.repoint_exchanges source target
  · rw [← lossless]
    exact scanned.text_around_table source
  · exact scanned.toList_repoint source target
  · -- The two renamings together are the second one alone, so they change the text as that one does.
    have back : (scan (scanned.repoint source target)).map (·.repoint target source) =
        .ok (scanned.repoint target source) := by
      rw [rescans, ← scanned.repoint_back source target]
      rfl
    rw [back, Except.ok.injEq, ← String.toList_inj, ← lossless, scanned.repoint_eq_text_iff,
      eq_comm]

/-- A table next to a number, in quotes, in a longer name and as the name of a call. -/
def crowded : String := "5cur.val-'cur.id'+cur()*cursor.id"

theorem repoint_renames_tokens_crowded :
    (scan crowded).map (·.repoint "cur" "next") = .ok "5next.val-'cur.id'+cur()*cursor.id" ∧
      (scan "5next.val-'cur.id'+cur()*cursor.id").map (·.repoint "next" "cur") = .ok crowded := by
  have read : (scan crowded).map Scanned.tokens = .ok [.number "5", .qualified "cur" "val",
      .operator .minus, .quoted "cur.id", .operator .plus, .placeholder "cur", .operator .times,
      .qualified "cursor" "id"] := by decide +kernel
  have renamed : (scan crowded).map (·.repoint "cur" "next") =
      .ok "5next.val-'cur.id'+cur()*cursor.id" := by decide +kernel
  have noExponent : ∀ c, "next".toList.head? = some c → c ≠ 'e' ∧ c ≠ 'E' := by
    intro c first
    cases first
    decide
  obtain ⟨scanned, scans, tokens⟩ := (except_map_ok_iff _ _ _).mp read
  obtain ⟨text, _, changes, _, _, _, _, back⟩ :=
    repoint_renames_tokens crowded "cur" "next" scanned scans (by decide) noExponent
  obtain rfl := Except.ok.inj (renamed.symm.trans changes)
  refine ⟨renamed, back.mpr (.inr ?_)⟩
  intro field
  simp [tokens]

/-- Qualifying a name in an expression succeeds and qualifies each bare name in the tokens, and the text
around it is kept. Nothing is left to qualify. -/
theorem qualify_qualifies_tokens (expression name field : String) (scanned : Scanned)
    (scans : scan expression = .ok scanned) (held : Text.isName field.toList = true) :
    ∃ text changed, (scan expression).map (·.qualify name field) = .ok text ∧
      scan text = .ok changed ∧
      List.Forall₂ (Token.Exchanged (fun _ => .ident name) fun _ => .qualified name field)
        scanned.tokens changed.tokens ∧
      expression.toList = name.toList.intercalate (scanned.around (Token.behindName? name)) ∧
      text.toList =
        (name ++ "." ++ field).toList.intercalate (scanned.around (Token.behindName? name)) ∧
      ∀ other, (scan text).map (·.qualify name other) = .ok text := by
  have lossless := (Scan.lexemes_lossless ((scan_ok_iff _ _).mp scans)).1
  have rescans := scan_qualify scans name field held
  refine ⟨_, _, congrArg (Except.map (·.qualify name field)) scans, rescans, ?_, ?_, ?_, ?_⟩
  · rw [Scanned.tokens_mapTokens, List.forall₂_map_right_iff, List.forall₂_same]
    exact fun token _ => token.qualify_exchanges name field
  · rw [← lossless]
    exact scanned.text_around_name name
  · exact scanned.toList_qualify name field
  · intro other
    rw [rescans, ← scanned.qualify_again name field other]
    rfl

/-- A bare name next to a number, and the same name with a field, as the name of a call and in quotes. -/
def partlyQualified : String := "5message+message.val*message()-'message'"

theorem qualify_qualifies_tokens_partly :
    (scan partlyQualified).map (·.qualify "message" "val") =
        .ok "5message.val+message.val*message()-'message'" ∧
      (scan "5message.val+message.val*message()-'message'").map (·.qualify "message" "val") =
        .ok "5message.val+message.val*message()-'message'" := by
  have qualified : (scan partlyQualified).map (·.qualify "message" "val") =
      .ok "5message.val+message.val*message()-'message'" := by decide +kernel
  obtain ⟨scanned, scans, _⟩ := (except_map_ok_iff _ _ _).mp qualified
  obtain ⟨text, _, changes, _, _, _, _, again⟩ :=
    qualify_qualifies_tokens partlyQualified "message" "val" scanned scans (by decide)
  obtain rfl := Except.ok.inj (qualified.symm.trans changes)
  exact ⟨qualified, again "val"⟩

end Expression

end Superstep
