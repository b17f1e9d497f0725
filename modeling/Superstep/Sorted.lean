/-!
# Sorted lists of texts

Sets and maps over texts as lists in the order of code points, each text once. This is the order in
which they are written out.
-/

namespace Superstep

def insertText (text : String) : List String → List String
  | [] => [text]
  | other :: others =>
    if text < other then text :: other :: others
    else if text = other then other :: others
    else other :: insertText text others

def sortTexts (texts : List String) : List String :=
  texts.foldl (fun sorted text => insertText text sorted) []

/-- Gives a key a value in a list sorted by key. A value it had before is replaced. -/
def insertKey {α : Type} (key : String) (value : α) : List (String × α) → List (String × α)
  | [] => [(key, value)]
  | (other, held) :: others =>
    if key < other then (key, value) :: (other, held) :: others
    else if key = other then (key, value) :: others
    else (other, held) :: insertKey key value others

/-- A list of keys and values sorted by key. Of the values of one key the last counts. -/
def sortKeys {α : Type} (entries : List (String × α)) : List (String × α) :=
  entries.foldl (fun sorted entry => insertKey entry.1 entry.2 sorted) []

end Superstep
