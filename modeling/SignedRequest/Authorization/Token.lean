/-!
The tokens of a parameter string. Spaces and tabs between tokens are passed over; a token is as
long as it can be, and its place is counted in octets of UTF-8.
-/

namespace SignedRequest.Authorization

inductive TokenKind where
  /-- A letter and the letters and digits after it. -/
  | key
  | equals
  /-- Any characters in double quotes; the quotes belong to the token, not to its text. -/
  | quoted
  | number
  | comma
  | unknown
  deriving DecidableEq

structure Token where
  kind : TokenKind
  text : List Char
  offset : Nat
  length : Nat

def octetLength : List Char → Nat
  | [] => 0
  | c :: rest => c.utf8Size + octetLength rest

/-- The kind and the text of the token that begins with `c`, and how many characters of `rest`
belong to it. -/
def tokenAt (c : Char) (rest : List Char) : TokenKind × List Char × Nat :=
  if c.isAlpha then
    let more := rest.takeWhile Char.isAlphanum
    (.key, c :: more, more.length)
  else if c.isDigit then
    let more := rest.takeWhile Char.isDigit
    (.number, c :: more, more.length)
  else if c = '=' then (.equals, [c], 0)
  else if c = ',' then (.comma, [c], 0)
  else if c = '"' then
    let inner := rest.takeWhile (· != '"')
    if inner.length < rest.length then (.quoted, inner, inner.length + 1) else (.unknown, [c], 0)
  else (.unknown, [c], 0)

def tokensFrom (offset : Nat) (cs : List Char) : List Token :=
  match cs with
  | [] => []
  | c :: rest =>
    if c = ' ' ∨ c = '\t' then tokensFrom (offset + 1) rest
    else
      let (kind, text, count) := tokenAt c rest
      let length := c.utf8Size + octetLength (rest.take count)
      ⟨kind, text, offset, length⟩ :: tokensFrom (offset + length) (rest.drop count)
termination_by cs.length
decreasing_by all_goals grind

def tokens (text : String) : List Token := tokensFrom 0 text.toList

end SignedRequest.Authorization
