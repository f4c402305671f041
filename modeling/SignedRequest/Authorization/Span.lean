import SignedRequest.Authorization.Parse

/-!
The octets of a parameter string that the report of a fault marks: the token that stands at the
fault, and nothing at the end of the input. Where no token begins it is left to the lexer how much
of the text it gives out as one piece.
-/

namespace SignedRequest.Authorization

structure Span where
  offset : Nat
  length : Nat
  deriving DecidableEq, Repr

def charsFrom (offset : Nat) : List Char → List Char
  | [] => []
  | c :: rest => if offset = 0 then c :: rest else charsFrom (offset - c.utf8Size) rest

/-- The characters of the token with which a text begins; where none begins, `unlexed` gives the
piece of the text that the lexer gives out. -/
def markedChars (unlexed : List Char → List Char) : List Char → List Char
  | [] => []
  | c :: rest =>
    let (kind, _, count) := tokenAt c rest
    if kind = .unknown then unlexed (c :: rest) else c :: rest.take count

def ParseError.span (unlexed : List Char → List Char) (input : String) (error : ParseError) :
    Span :=
  let marked := markedChars unlexed (charsFrom error.offset input.toList)
  ⟨error.offset, error.length?.getD (octetLength marked)⟩

end SignedRequest.Authorization
