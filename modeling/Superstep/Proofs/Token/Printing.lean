import Superstep.Proofs.Token.Joining

/-!
# Printing tokens

Tokens are printed one after the other with a space between them. The space keeps each of them apart
from its neighbours, so well-formed tokens are scanned as they were printed: a name does not take the
parentheses behind it, and a number takes no exponent from the word behind it. The tables that the
printed text refers to are those of its qualified tokens, each at its first place.
-/

namespace Superstep

/-- New items are appended in order, each once. -/
theorem foldl_addNew (items new : List String) :
    new.foldl addNew items = items ++ (new.filter (· ∉ items)).eraseDups := by
  induction new generalizing items with
  | nil => simp
  | cons first others ih =>
    rw [List.foldl_cons, ih, addNew]
    by_cases known : first ∈ items
    · rw [if_pos known, List.filter_cons_of_neg (by simpa using known)]
    · rw [if_neg known, List.filter_cons_of_pos (by simpa using known), List.eraseDups_cons,
        List.filter_filter, List.append_assoc, List.singleton_append]
      congr 4
      funext other
      simp [Bool.and_comm, beq_eq_decide]

namespace Token

def print (tokens : List Token) : String := " ".intercalate (tokens.map text)

/-- The tables that are qualified with `id` or `val`, in order and as often as they occur. -/
def rowTables : List Token → List String
  | [] => []
  | .qualified table "id" :: tokens => table :: rowTables tokens
  | .qualified table "val" :: tokens => table :: rowTables tokens
  | _ :: tokens => rowTables tokens

theorem filterMap_valueTable? (tokens : List Token) :
    tokens.filterMap valueTable? = rowTables tokens := by
  fun_induction rowTables tokens with
  | case1 => rfl
  | case2 table tokens ih =>
    have refers : (qualified table "id").valueTable? = some table := rfl
    rw [List.filterMap_cons_some refers, ih]
  | case3 table tokens ih =>
    have refers : (qualified table "val").valueTable? = some table := rfl
    rw [List.filterMap_cons_some refers, ih]
  | case4 token tokens noId noVal ih =>
    have silent : token.valueTable? = none := by
      cases token with
      | qualified table field =>
        have apart : field ≠ "id" ∧ field ≠ "val" := by
          constructor
          · rintro rfl
            exact noId table rfl
          · rintro rfl
            exact noVal table rfl
        simp [valueTable?, apart]
      | _ => rfl
    rw [List.filterMap_cons_none silent, ih]

end Token

/-- What is printed is cut up into the tokens that were printed. -/
theorem Munch.print (tokens : List Token) (formed : ∀ token ∈ tokens, token.WellFormed) :
    Munch (Token.print tokens).toList tokens := by
  rw [Token.print, String.toList_intercalate, List.map_map]
  induction tokens with
  | nil => exact .done [] rfl
  | cons token tokens ih =>
    have first : Munch token.text.toList [token] := .alone token (formed token List.mem_cons_self)
    have later := ih fun other member => formed other (List.mem_cons_of_mem token member)
    cases tokens with
    | nil =>
      rw [List.map_cons, List.map_nil, List.intercalate_singleton]
      exact first
    | cons next tokens =>
      rw [List.map_cons, List.map_cons, List.intercalate_cons_cons, List.append_assoc]
      exact first.append later

namespace Expression

/-- Scanning undoes printing, and the tables that the printed text refers to are the row tables of its
tokens in the order of their first use. -/
theorem scan_print (tokens : List Token) (formed : ∀ token ∈ tokens, token.WellFormed) :
    (scan (Token.print tokens)).map Scanned.tokens = .ok tokens ∧
      (scan (Token.print tokens)).map Scanned.referencedTables =
        .ok (Token.rowTables tokens).eraseDups := by
  obtain ⟨scanned, scans, same⟩ := (scan_tokens_iff _ _).mpr (Munch.print tokens formed)
  have refers : scanned.referencedTables = (Token.rowTables tokens).eraseDups := by
    have all : (Token.rowTables tokens).filter (· ∉ []) = Token.rowTables tokens :=
      List.filter_eq_self.mpr (by simp)
    rw [Scanned.referencedTables, same, Token.filterMap_valueTable?, foldl_addNew, all,
      List.nil_append]
  rw [scans]
  exact ⟨congrArg Except.ok same, congrArg Except.ok refers⟩

/-- Tokens that would be read as others if they were printed without a space between them. -/
def neighbours : List Token :=
  [.ident "f", .openParen, .closeParen, .number "1", .ident "e5", .qualified "b" "val",
    .number "2.5E-3", .qualified "AND" "id", .keyword .and, .quoted "a.id AND (", .operator .less,
    .operator .greater, .qualified "b" "id", .ident "ORACLE", .qualified "c" "cnt"]

theorem scan_print_neighbours :
    (∀ token ∈ neighbours, token.WellFormed) ∧
      (scan (Token.print neighbours)).map Scanned.tokens = .ok neighbours ∧
      (scan (Token.print neighbours)).map Scanned.referencedTables = .ok ["b", "AND"] := by
  have one : Text.Numeral ['1'] :=
    .parts ['1'] [] [] ⟨by decide, by simp⟩ .absent .absent
  have small : Text.Numeral ['2', '.', '5', 'E', '-', '3'] :=
    .parts ['2'] ['.', '5'] ['E', '-', '3'] ⟨by decide, by simp⟩
      (.present ['5'] ⟨by decide, by simp⟩)
      (.present 'E' ['-'] ['3'] (.inr rfl) (.inr (.inr rfl)) ⟨by decide, by simp⟩)
  have formed : ∀ token ∈ neighbours, token.WellFormed := by
    simp [neighbours, Token.WellFormed, one, small]
    decide
  have tables : (Token.rowTables neighbours).eraseDups = ["b", "AND"] := by decide
  obtain ⟨reads, refers⟩ := scan_print neighbours formed
  exact ⟨formed, reads, tables ▸ refers⟩

end Expression

end Superstep
