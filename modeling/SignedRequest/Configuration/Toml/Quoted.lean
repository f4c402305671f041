import SignedRequest.Configuration.Toml.Scalar

/-!
Texts in quotes. Double quotes allow for escapes and single quotes do not, and three quotes of
either kind enclose a text of several lines, in which one or two of them may stand.
-/

namespace SignedRequest.Configuration.Toml

def isBlank (c : Char) : Bool := c == ' ' || c == '\t'

/-- Every character but the control characters, among which the tab is not counted. -/
def isTextChar (c : Char) : Bool := c == '\t' || (' ' ≤ c && c != '\x7F')

def dropBreak? (cs : List Char) : Option (List Char) :=
  match cs with
  | '\n' :: rest => some rest
  | '\r' :: '\n' :: rest => some rest
  | _ => none

def dropLines : List Char → List Char
  | ' ' :: rest => dropLines rest
  | '\t' :: rest => dropLines rest
  | '\n' :: rest => dropLines rest
  | '\r' :: '\n' :: rest => dropLines rest
  | cs => cs

/-- The character with a number that is written in `count` hexadecimal digits. -/
def numbered? (count : Nat) (cs : List Char) : Option Char :=
  let digits := cs.take count
  if digits.length = count ∧ digits.all isHexDigit then
    let n := numberOf 16 digits
    if n.isValidChar then some (Char.ofNat n) else none
  else none

/-- The character behind a backslash, and how many characters write it. -/
def escape? (cs : List Char) : Option (Char × Nat) :=
  match cs with
  | 'b' :: _ => some ('\x08', 1)
  | 't' :: _ => some ('\t', 1)
  | 'n' :: _ => some ('\n', 1)
  | 'f' :: _ => some ('\x0C', 1)
  | 'r' :: _ => some ('\r', 1)
  | '"' :: _ => some ('"', 1)
  | '\\' :: _ => some ('\\', 1)
  | 'u' :: rest => (numbered? 4 rest).map fun c => (c, 5)
  | 'U' :: rest => (numbered? 8 rest).map fun c => (c, 9)
  | _ => none

def hasEscapes (quote : Char) : Bool := quote == '"'

def line? (quote : Char) (before : List Char) (cs : List Char) : Option (String × List Char) :=
  match cs with
  | [] => none
  | c :: rest =>
    if c = quote then some (String.ofList before.reverse, rest)
    else if c = '\\' ∧ hasEscapes quote then
      match escape? rest with
      | some (d, count) => line? quote (d :: before) (rest.drop count)
      | none => none
    else if isTextChar c then line? quote (c :: before) rest
    else none
termination_by cs.length
decreasing_by all_goals grind

/-- What follows a backslash at the end of a line, with the blanks and line breaks there. -/
def dropContinuation? (cs : List Char) : Option (List Char) :=
  (dropBreak? (cs.dropWhile isBlank)).map dropLines

def lines? (quote : Char) (before : List Char) (cs : List Char) : Option (String × List Char) :=
  match cs with
  | [] => none
  | c :: rest =>
    if c = quote then
      let more := rest.takeWhile (· == quote)
      if more.length < 2 then lines? quote (more ++ c :: before) (rest.drop more.length)
      else if more.length < 5 then
        some (String.ofList (before.reverse ++ more.drop 2), rest.drop more.length)
      else none
    else if c = '\\' ∧ hasEscapes quote then
      match dropContinuation? rest with
      | some later => if later.length ≤ rest.length then lines? quote before later else none
      | none =>
        match escape? rest with
        | some (d, count) => lines? quote (d :: before) (rest.drop count)
        | none => none
    else
      match dropBreak? (c :: rest) with
      | some later =>
        if later.length ≤ rest.length then lines? quote ('\n' :: before) later else none
      | none => if isTextChar c then lines? quote (c :: before) rest else none
termination_by cs.length
decreasing_by all_goals grind

def quoted? (cs : List Char) : Option (String × List Char) :=
  match cs with
  | [] => none
  | quote :: rest =>
    if quote ≠ '"' ∧ quote ≠ '\'' then none
    else if [quote, quote].isPrefixOf rest then
      let body := rest.drop 2
      lines? quote [] ((dropBreak? body).getD body)
    else line? quote [] rest

end SignedRequest.Configuration.Toml
