/-!
White space in the sense of the Unicode property `White_Space`. Trimming takes it off both ends of
a text, and the words of a text are its maximal runs without white space.
-/

namespace SignedRequest.Text

def isBlank (c : Char) : Bool :=
  let n := c.toNat
  (9 ≤ n && n ≤ 13) || n == 0x20 || n == 0x85 || n == 0xA0 || n == 0x1680 ||
    (0x2000 ≤ n && n ≤ 0x200A) || n == 0x2028 || n == 0x2029 || n == 0x202F || n == 0x205F ||
    n == 0x3000

def trimEnd (cs : List Char) : List Char := (cs.reverse.dropWhile isBlank).reverse

def trimChars (cs : List Char) : List Char := trimEnd (cs.dropWhile isBlank)

def trim (text : String) : String := String.ofList (trimChars text.toList)

def isAllBlank (text : String) : Bool := text.toList.all isBlank

def wordsOf (cs : List Char) : List (List Char) :=
  (cs.splitOnP isBlank).filter fun word => !word.isEmpty

def words (text : String) : List String := (wordsOf text.toList).map String.ofList

/-- Every run of white space becomes one space, and none is left at the ends. -/
def fold (text : String) : String := " ".intercalate (words text)

end SignedRequest.Text
