import SignedRequest.Configuration.Value

/-!
Values that stand for themselves: numbers, truth values, dates and times. Each is a run of letters,
digits and a few signs, and only a date may have a space before its time of day.
-/

namespace SignedRequest.Configuration.Toml

def isScalarChar (c : Char) : Bool := c.isAlphanum || "+-_.:".toList.contains c

def isHexDigit (c : Char) : Bool :=
  c.isDigit || ('a' ≤ c && c ≤ 'f') || ('A' ≤ c && c ≤ 'F')

def hexValue (c : Char) : Nat :=
  if c.isDigit then c.toNat - 48 else if 'a' ≤ c then c.toNat - 87 else c.toNat - 55

def numberOf (base : Nat) (digits : List Char) : Nat :=
  digits.foldl (fun n c => n * base + hexValue c) 0

def digits? (isDigit : Char → Bool) (cs : List Char) : Option (List Char) :=
  let groups := cs.splitOn '_'
  if groups.all fun group => !group.isEmpty && group.all isDigit then some groups.flatten else none

/-- The digits of a whole number in base ten, which does not begin with a zero unless it is one. -/
def decimal? (cs : List Char) : Option (List Char) := do
  let digits ← digits? Char.isDigit cs
  if 1 < digits.length ∧ digits.head? = some '0' then none else some digits

/-- Whether a sign makes the number negative, and what follows it. -/
def sign (cs : List Char) : Bool × List Char :=
  match cs with
  | '-' :: rest => (true, rest)
  | '+' :: rest => (false, rest)
  | _ => (false, cs)

def based? (base : Nat) (isDigit : Char → Bool) (cs : List Char) : Option Int := do
  let digits ← digits? isDigit cs
  some (numberOf base digits)

/-- A whole number; only in base ten it may have a sign. -/
def integer? (cs : List Char) : Option Int := do
  let n ← match cs with
    | '0' :: 'x' :: rest => based? 16 isHexDigit rest
    | '0' :: 'o' :: rest => based? 8 (fun c => '0' ≤ c && c ≤ '7') rest
    | '0' :: 'b' :: rest => based? 2 (fun c => c == '0' || c == '1') rest
    | _ =>
      let (negative, rest) := sign cs
      (decimal? rest).map fun digits =>
        if negative then -(numberOf 10 digits : Int) else numberOf 10 digits
  if -0x8000000000000000 ≤ n ∧ n < 0x8000000000000000 then some n else none

def isExponentMark (c : Char) : Bool := c == 'e' || c == 'E'

/-- The exponent behind its mark, which may have a sign. -/
def isExponent (cs : List Char) : Bool := (digits? Char.isDigit (sign cs).2).isSome

/-- Digits around a point; without a point there must be an exponent. -/
def isMantissa (pointless : Bool) (cs : List Char) : Bool :=
  let whole := cs.takeWhile (· != '.')
  (decimal? whole).isSome &&
    match cs.dropWhile (· != '.') with
    | [] => pointless
    | _ :: places => (digits? Char.isDigit places).isSome

def isFraction (cs : List Char) : Bool :=
  let unsigned := (sign cs).2
  unsigned == "inf".toList || unsigned == "nan".toList ||
    match unsigned.dropWhile (!isExponentMark ·) with
    | [] => isMantissa false unsigned
    | _ :: exponent =>
      isMantissa true (unsigned.takeWhile (!isExponentMark ·)) && isExponent exponent

def digitsOf? (count : Nat) (cs : List Char) : Option (Nat × List Char) :=
  let digits := cs.take count
  if digits.length = count ∧ digits.all Char.isDigit then
    some (numberOf 10 digits, cs.drop count)
  else none

def mark? (c : Char) (cs : List Char) : Option (List Char) :=
  match cs with
  | d :: rest => if d = c then some rest else none
  | [] => none

def isLeapYear (year : Nat) : Bool := year % 4 == 0 && (year % 100 != 0 || year % 400 == 0)

def daysOfMonth (year month : Nat) : Nat :=
  if month = 2 then if isLeapYear year then 29 else 28
  else if month = 4 ∨ month = 6 ∨ month = 9 ∨ month = 11 then 30 else 31

def dropDate? (cs : List Char) : Option (List Char) := do
  let (year, cs) ← digitsOf? 4 cs
  let (month, cs) ← digitsOf? 2 (← mark? '-' cs)
  let (day, cs) ← digitsOf? 2 (← mark? '-' cs)
  if 1 ≤ month ∧ month ≤ 12 ∧ 1 ≤ day ∧ day ≤ daysOfMonth year month then some cs else none

def dropMinutes? (cs : List Char) : Option (List Char) := do
  let (hour, cs) ← digitsOf? 2 cs
  let (minute, cs) ← digitsOf? 2 (← mark? ':' cs)
  if hour < 24 ∧ minute < 60 then some cs else none

/-- What follows a time of day, in which there may be a leap second and parts of a second. -/
def dropTime? (cs : List Char) : Option (List Char) := do
  let (seconds, cs) ← digitsOf? 2 (← mark? ':' (← dropMinutes? cs))
  if 60 < seconds then none
  match cs with
  | '.' :: rest =>
    match rest with
    | [] => none
    | c :: _ => if c.isDigit then some (rest.dropWhile Char.isDigit) else none
  | _ => some cs

def isOffset (cs : List Char) : Bool :=
  match cs with
  | [] => true
  | c :: rest =>
    if c == 'Z' || c == 'z' then rest.isEmpty
    else (c == '+' || c == '-') && dropMinutes? rest == some []

def isOffsetTime (cs : List Char) : Bool := (dropTime? cs).any isOffset

def isDate (cs : List Char) : Bool := dropDate? cs == some []

def isMoment (cs : List Char) : Bool :=
  dropTime? cs == some [] ||
    match dropDate? cs with
    | none => false
    | some [] => true
    | some (c :: rest) => (c == 'T' || c == 't') && isOffsetTime rest

def scalarOf? (run : List Char) : Option Value :=
  if run = "true".toList then some (.boolean true)
  else if run = "false".toList then some (.boolean false)
  else
    match integer? run with
    | some n => some (.integer n)
    | none =>
      if isFraction run then some .fraction else if isMoment run then some .moment else none

def scalar? (cs : List Char) : Option (Value × List Char) := do
  let run := cs.takeWhile isScalarChar
  let value ← scalarOf? run
  let rest := cs.drop run.length
  match rest with
  | ' ' :: later =>
    let time := later.takeWhile isScalarChar
    if isDate run && isOffsetTime time then some (.moment, later.drop time.length)
    else some (value, rest)
  | _ => some (value, rest)

end SignedRequest.Configuration.Toml
