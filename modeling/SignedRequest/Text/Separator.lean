/-!
Cutting a text at a separator of one or more characters: occurrences are taken leftmost, and do
not overlap.
-/

namespace SignedRequest.Text

/-- The pieces between the occurrences of a separator, the separator being `head :: tail`. -/
def piecesOf (head : Char) (tail : List Char) (cs : List Char) : List (List Char) :=
  match cs with
  | [] => [[]]
  | c :: rest =>
    if (head :: tail).isPrefixOf (c :: rest) then [] :: piecesOf head tail (rest.drop tail.length)
    else
      match piecesOf head tail rest with
      | [] => [[c]]
      | piece :: pieces => (c :: piece) :: pieces
termination_by cs.length
decreasing_by all_goals grind

/-- The pieces between the occurrences of `separator`; the text itself if `separator` is empty. -/
def pieces (separator text : String) : List String :=
  match separator.toList with
  | [] => [text]
  | head :: tail => (piecesOf head tail text.toList).map String.ofList

def cut? (separator : Char) (text : String) : Option (String × String) :=
  let cs := text.toList
  match cs.dropWhile (· != separator) with
  | [] => none
  | _ :: after => some (String.ofList (cs.takeWhile (· != separator)), String.ofList after)

def containsChars (part : List Char) : List Char → Bool
  | [] => part.isEmpty
  | c :: rest => part.isPrefixOf (c :: rest) || containsChars part rest

def contains (part text : String) : Bool := containsChars part.toList text.toList

end SignedRequest.Text
