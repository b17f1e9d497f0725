/-!
# Searching and cutting texts

Cutting a text at one character, finding a word in it, and replacing every occurrence of a word.
All functions recurse on the text itself.
-/

namespace Superstep.Text

/-- What stands before and after the first `mark`, if there is one. -/
def cutFirst (mark : Char) : List Char → Option (List Char × List Char)
  | [] => none
  | c :: cs =>
    if c = mark then some ([], cs)
    else (cutFirst mark cs).map fun (before, after) => (c :: before, after)

/-- What stands before and after the last `mark`, if there is one. -/
def cutLast (mark : Char) : List Char → Option (List Char × List Char)
  | [] => none
  | c :: cs =>
    match cutLast mark cs with
    | some (before, after) => some (c :: before, after)
    | none => if c = mark then some ([], cs) else none

/-- The pieces between the marks. There is one piece more than there are marks. -/
def pieces (mark : Char) : List Char → List (List Char)
  | [] => [[]]
  | c :: cs => if c = mark then [] :: pieces mark cs else (pieces mark cs).modifyHead (c :: ·)

def occurs (word : List Char) : List Char → Bool
  | [] => word.isEmpty
  | c :: cs => word.isPrefixOf (c :: cs) || occurs word cs

/-- Replaces `word` in the text from the left. The number says how many characters of an
occurrence that has already been replaced are still to be passed over. -/
def replaceFrom (word substitute : List Char) : Nat → List Char → List Char
  | _, [] => []
  | skip + 1, _ :: cs => replaceFrom word substitute skip cs
  | 0, c :: cs =>
    if word.isPrefixOf (c :: cs) then substitute ++ replaceFrom word substitute (word.length - 1) cs
    else c :: replaceFrom word substitute 0 cs

/-- Every occurrence of the nonempty `word` replaced, found from the left and not overlapping. What
is put in is not searched again. -/
def replace (word substitute text : List Char) : List Char := replaceFrom word substitute 0 text

theorem replace_nil (word substitute : List Char) : replace word substitute [] = [] := by
  rw [replace, replaceFrom]

def mentions (text word : String) : Bool := occurs word.toList text.toList

end Superstep.Text
