import SignedRequest.Text.CaseTable

/-!
Letter case. Names are compared with the case of ASCII letters ignored, and written in the lower
case of the whole repertoire, where a capital sigma at the end of a word takes its final form.
-/

namespace SignedRequest.Text

def asciiLower (text : String) : String := String.ofList (text.toList.map Char.toLower)

def sameAscii (a b : String) : Bool := asciiLower a == asciiLower b

theorem sameAscii_iff (a b : String) : sameAscii a b = true ↔ asciiLower a = asciiLower b := by
  simp [sameAscii]

def isCased (c : Char) : Bool := CaseTable.inRanges CaseTable.casedRanges c.toNat

def isCaseIgnorable (c : Char) : Bool := CaseTable.inRanges CaseTable.caseIgnorableRanges c.toNat

/-- Case-ignorable characters are passed over, and the next one decides. -/
def meetsCased (cs : List Char) : Bool :=
  match cs.dropWhile isCaseIgnorable with
  | [] => false
  | c :: _ => isCased c

def lowerChar (c : Char) : List Char :=
  if c.toNat < 0x80 then [c.toLower]
  else if c == '\u0130' then ['i', '\u0307']
  else
    match CaseTable.lowerRuns.find? fun run => run.covers c.toNat with
    | some run => [Char.ofNat (c.toNat + run.offset).toNat]
    | none => [c]

/-- A sigma ends a word if a cased character precedes it and none follows. -/
def lowerAfter (before : List Char) : List Char → List Char
  | [] => []
  | c :: rest =>
    if c == 'Σ' then
      (if meetsCased before && !meetsCased rest then 'ς' else 'σ') :: lowerAfter (c :: before) rest
    else lowerChar c ++ lowerAfter (c :: before) rest

/-- The lower case of a text; `before` above is what precedes, nearest character first. -/
def lower (text : String) : String := String.ofList (lowerAfter [] text.toList)

end SignedRequest.Text
