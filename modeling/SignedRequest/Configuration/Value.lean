/-!
Configuration data, whichever format it was written in, and the reading of records from it. The
settings of a record may be given by name, or in order as a list.
-/

namespace SignedRequest.Configuration

inductive Value where
  | null
  | boolean (b : Bool)
  | integer (n : Int)
  /-- A number that is not whole, of which no setting makes use. -/
  | fraction
  /-- A date or a time of day, of which no setting makes use. -/
  | moment
  | text (s : String)
  | list (items : List Value)
  | table (entries : List (String × Value))
  deriving Inhabited

structure Format where
  /-- Whether a value says that a name stands for itself. -/
  isBare : Value → Bool
  /-- Whether a list may be longer than its record. -/
  allowsSurplus : Bool

namespace Format

def json : Format where
  isBare := fun value => value matches .null
  allowsSurplus := false

/-- The format has no null, and writes an empty table instead. -/
def toml : Format where
  isBare := fun value => value matches .table []
  allowsSurplus := true

end Format

namespace Value

def toText? : Value → Option String
  | text s => some s
  | _ => none

def toBool? : Value → Option Bool
  | boolean b => some b
  | _ => none

def toNat? : Value → Option Nat
  | integer n => if 0 ≤ n ∧ n < 0x10000000000000000 then some n.toNat else none
  | _ => none

def toInt? : Value → Option Int
  | integer n => if -0x8000000000000000 ≤ n ∧ n < 0x8000000000000000 then some n else none
  | _ => none

def toList? {α : Type} (read : Value → Option α) : Value → Option (List α)
  | list items => items.mapM read
  | _ => none

def toOption? {α : Type} (read : Value → Option α) : Value → Option (Option α)
  | null => some none
  | value => some <$> read value

def toName? {α : Type} (format : Format) (ofName? : String → Option α) : Value → Option α
  | text name => ofName? name
  | table [(name, value)] => if format.isBare value then ofName? name else none
  | _ => none

end Value

/-- The settings of a record, by name or in order. -/
inductive Record where
  | named (entries : List (String × Value))
  | ordered (items : List Value)

namespace Record

def ofValue? (format : Format) (size : Nat) : Value → Option Record
  | .table entries => some (.named entries)
  | .list items =>
    if format.allowsSurplus || items.length ≤ size then some (.ordered items) else none
  | _ => none

def get? (record : Record) (place : Nat) (name : String) : Option Value :=
  match record with
  | named entries => entries.lookup name
  | ordered items => items[place]?

def required {α : Type} (record : Record) (place : Nat) (name : String)
    (read : Value → Option α) : Option α :=
  (record.get? place name).bind read

def optional {α : Type} (record : Record) (place : Nat) (name : String) (default : α)
    (read : Value → Option α) : Option α :=
  match record.get? place name with
  | none => some default
  | some value => read value

end Record
end SignedRequest.Configuration
