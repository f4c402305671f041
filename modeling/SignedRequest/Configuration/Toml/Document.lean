import SignedRequest.Configuration.Toml.Quoted
import SignedRequest.Configuration.Toml.Tree

/-!
Reading a document: keys, values and lines. Every line is blank, a heading, or a key with its
value, and may end with a comment.
-/

namespace SignedRequest.Configuration.Toml

abbrev Reader (α : Type) := List Char → Option (α × List Char)

def dropBlanks (cs : List Char) : List Char := cs.dropWhile isBlank

def isBareKeyChar (c : Char) : Bool := c.isAlphanum || c == '_' || c == '-'

def keyPart? : Reader String := fun cs =>
  match cs with
  | '"' :: rest => line? '"' [] rest
  | '\'' :: rest => line? '\'' [] rest
  | _ =>
    let bare := cs.takeWhile isBareKeyChar
    if bare.isEmpty then none else some (String.ofList bare, cs.drop bare.length)

/-- Parts of a key, last first, that go on with a part. -/
def keyParts? (before : List String) (cs : List Char) : Option (List String × List Char) :=
  match keyPart? (dropBlanks cs) with
  | none => none
  | some (part, rest) =>
    match dropBlanks rest with
    | '.' :: later =>
      if later.length < cs.length then keyParts? (part :: before) later else none
    | rest => some (part :: before, rest)
termination_by cs.length

/-- Keys have fewer parts and values fewer levels than this. -/
def depthLimit : Nat := 80

def key? : Reader (List String × String) := fun cs =>
  match keyParts? [] cs with
  | some (last :: before, rest) =>
    if before.length + 1 < depthLimit then some ((before.reverse, last), rest) else none
  | _ => none

def expect? (c : Char) (cs : List Char) : Option (List Char) := mark? c cs

def dropComment (cs : List Char) : List Char :=
  match cs with
  | '#' :: rest => rest.dropWhile isTextChar
  | _ => cs

/-- What follows blanks, line breaks and comments, each comment being followed by a line break. -/
def dropGaps? (cs : List Char) : Option (List Char) :=
  match dropLines cs with
  | '#' :: rest =>
    match dropBreak? (rest.dropWhile isTextChar) with
    | some later => if later.length < cs.length then dropGaps? later else none
    | none => none
  | rest => some rest
termination_by cs.length

def items? (item : Reader Value) (before : List Value) (cs : List Char) :
    Option (List Value × List Char) :=
  match dropGaps? cs with
  | none => none
  | some (']' :: rest) => some (before.reverse, rest)
  | some start =>
    match item start with
    | none => none
    | some (value, rest) =>
      match dropGaps? rest with
      | some (']' :: rest) => some ((value :: before).reverse, rest)
      | some (',' :: rest) =>
        if rest.length < cs.length then items? item (value :: before) rest else none
      | _ => none
termination_by cs.length

def pair? (item : Reader Value) : Reader ((List String × String) × Value) := fun cs => do
  let (key, rest) ← key? cs
  let (value, rest) ← item (dropBlanks (← expect? '=' (dropBlanks rest)))
  some ((key, value), rest)

def entries? (item : Reader Value) (entries : Entries) (cs : List Char) :
    Option (Entries × List Char) :=
  match pair? item (dropBlanks cs) with
  | none => none
  | some (((path, key), value), rest) =>
    match addValue path key value .heading entries with
    | none => none
    | some entries =>
      match dropBlanks rest with
      | '\x7D' :: rest => some (entries, rest)
      | ',' :: rest => if rest.length < cs.length then entries? item entries rest else none
      | _ => none
termination_by cs.length

/-- A value in which there are fewer than `depth` others around each other. -/
def value? (depth : Nat) : Reader Value := fun cs =>
  match cs with
  | '"' :: _ => (quoted? cs).map fun (s, rest) => (.text s, rest)
  | '\'' :: _ => (quoted? cs).map fun (s, rest) => (.text s, rest)
  | '[' :: rest =>
    match depth with
    | 0 => none
    | depth + 1 => (items? (value? depth) [] rest).map fun (items, rest) => (.list items, rest)
  | '\x7B' :: rest =>
    match depth with
    | 0 => none
    | depth + 1 =>
      match dropBlanks rest with
      | '\x7D' :: rest => some (.table [], rest)
      | _ =>
        (entries? (value? depth) [] rest).map fun (entries, rest) =>
          (.table (entryValues entries), rest)
  | _ => scalar? cs

def dropLineEnd? (cs : List Char) : Option (List Char) :=
  match dropComment (dropBlanks cs) with
  | [] => some []
  | rest => dropBreak? rest

/-- The tables so far, and the heading under which values are added. -/
structure Progress where
  root : Entries
  heading : List String

def Progress.add? (progress : Progress) (path : List String) (key : String) (value : Value) :
    Option Progress := do
  let root ← descend .implied progress.heading (addValue path key value) .heading progress.root
  some { progress with root }

def Progress.open? (progress : Progress) (path : List String) (key : String)
    (step : String → Step) : Option Progress := do
  let root ← descend .implied path (step key) .heading progress.root
  some ⟨root, path ++ [key]⟩

def statement? (progress : Progress) : Reader Progress := fun cs =>
  match cs with
  | '[' :: '[' :: rest => do
    let ((path, key), rest) ← key? rest
    let rest ← dropLineEnd? (← expect? ']' (← expect? ']' rest))
    some (← progress.open? path key appendTable, rest)
  | '[' :: rest => do
    let ((path, key), rest) ← key? rest
    let rest ← dropLineEnd? (← expect? ']' rest)
    some (← progress.open? path key openTable, rest)
  | _ => do
    let (((path, key), value), rest) ← pair? (value? (depthLimit - 1)) cs
    let rest ← dropLineEnd? rest
    some (← progress.add? path key value, rest)

def read? (progress : Progress) (cs : List Char) : Option Entries :=
  match dropLines cs with
  | [] => some progress.root
  | c :: start =>
    let next :=
      if c = '#' then (dropLineEnd? (c :: start)).map fun rest => (progress, rest)
      else statement? progress (c :: start)
    match next with
    | none => none
    | some (progress, rest) => if rest.length < cs.length then read? progress rest else none
termination_by cs.length

def parse? (text : String) : Option Value :=
  let cs := text.toList
  let cs := if cs.head? = some '\uFEFF' then cs.drop 1 else cs
  (read? ⟨[], []⟩ cs).map fun entries => .table (entryValues entries)

end SignedRequest.Configuration.Toml
