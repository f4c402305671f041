import SignedRequest.Encoding.Base64
import SignedRequest.Text.Utf8

/-!
Textual encoding of key documents: a label in the boundary lines, and between them Base64 in lines
of 64 characters, of which only the last may be shorter.
-/

namespace SignedRequest.Pem

structure Document where
  label : String
  content : Bytes

def opening : List Char := "-----BEGIN ".toList
def closing : List Char := "-----END ".toList
def dashes : List Char := "-----".toList

/-- The text from the opening boundary on. It begins a line, and no NUL precedes it. -/
def skipPreamble? (cs : List Char) : Option (List Char) :=
  if opening.isPrefixOf cs then some cs else go cs
where
  go : List Char → Option (List Char)
    | [] => none
    | c :: rest =>
      if c = '\x00' then none
      else if c = '\n' ∧ opening.isPrefixOf rest then some rest
      else go rest

def afterLineBreak? : List Char → Option (List Char)
  | '\n' :: rest => some rest
  | '\r' :: '\n' :: rest => some rest
  | '\r' :: rest => some rest
  | _ => none

def beforeLineBreak? (cs : List Char) : Option (List Char) :=
  match cs.reverse with
  | '\n' :: '\r' :: rest => some rest.reverse
  | '\n' :: rest => some rest.reverse
  | '\r' :: rest => some rest.reverse
  | _ => none

/-- The characters of a label: printable ASCII without the hyphen. -/
def isLabelChar (c : Char) : Bool := '!' ≤ c && c ≤ '~' && c != '-'

def isSpace (c : Char) : Bool := c == ' ' || c == '\t'

/-- Single spaces inside a label are allowed, not before it. -/
def isLabel : List Char → Bool
  | [] => true
  | c :: rest => isLabelChar c && go rest
where
  go : List Char → Bool
    | [] => true
    | c :: rest =>
      if isSpace c then
        match rest with
        | [] => true
        | d :: rest => isLabelChar d && go rest
      else isLabelChar c && go rest

def dropEnd? (part cs : List Char) : Option (List Char) :=
  if part.reverse.isPrefixOf cs.reverse then some (cs.take (cs.length - part.length)) else none

theorem length_of_afterLineBreak? {cs rest : List Char} (found : afterLineBreak? cs = some rest) :
    rest.length < cs.length := by
  unfold afterLineBreak? at found
  split at found <;> cases found <;> simp only [List.length_cons] <;> omega

def joinLines? (cs : List Char) : Option (List Char) :=
  if (cs.drop 64).isEmpty then some cs
  else
    match found : afterLineBreak? (cs.drop 64) with
    | some rest =>
      have := length_of_afterLineBreak? found
      (joinLines? rest).map (cs.take 64 ++ ·)
    | none => none
termination_by cs.length
decreasing_by grind

def decode? (text : String) : Option Document := do
  let cs ← skipPreamble? text.toList
  let afterOpening := cs.drop opening.length
  let label := afterOpening.takeWhile (· != '-')
  if !isLabel label then none
  let afterLabel := afterOpening.drop label.length
  if !dashes.isPrefixOf afterLabel then none
  let body ← afterLineBreak? (afterLabel.drop dashes.length)
  let body := (beforeLineBreak? body).getD body
  let body ← dropEnd? dashes body
  let body ← dropEnd? label body
  let body ← dropEnd? closing body
  let body ← beforeLineBreak? body
  if body = [] then none
  let letters ← joinLines? body
  let content ← Base64.decodeChars? letters
  some ⟨String.ofList label, content⟩

end SignedRequest.Pem
