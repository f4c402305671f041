import SignedRequest.Configuration.Value

/-!
The tables of a document while it is read. A table is opened by a heading, by the heading of a
table inside it, or by a dotted key, and how it came about decides who may add to it.
-/

namespace SignedRequest.Configuration.Toml

inductive Origin where
  | heading
  /-- The heading of a table inside it. -/
  | implied
  | dotted
  deriving DecidableEq

inductive Node where
  | leaf (value : Value)
  | table (origin : Origin) (entries : List (String × Node))
  /-- Tables under one name, of which only the last can still be added to. -/
  | tables (finished : List (List (String × Node))) (last : List (String × Node))

abbrev Entries := List (String × Node)

/-- Puts a node in the place of the one under its key, or at the end. -/
def Entries.put (entries : Entries) (key : String) (node : Node) : Entries :=
  match entries with
  | [] => [(key, node)]
  | entry :: rest =>
    if entry.1 = key then (key, node) :: rest else entry :: Entries.put rest key node

/-- What a step along a path does to the entries that it leads to; `none` refuses it. -/
abbrev Step := Origin → Entries → Option Entries

/-- Changes the table at the end of a path. Tables that are missing on the way are made as `made`;
a dotted key does not pass a table with a heading of its own. -/
def descend (made : Origin) (path : List String) (step : Step) (origin : Origin)
    (entries : Entries) : Option Entries :=
  match path with
  | [] => step origin entries
  | key :: path =>
    match entries.lookup key with
    | none => do
      let inner ← descend made path step made []
      some (entries.put key (.table made inner))
    | some (.leaf _) => none
    | some (.table origin inner) =>
      if made = .dotted ∧ origin = .heading then none
      else do
        let inner ← descend made path step origin inner
        some (entries.put key (.table origin inner))
    | some (.tables finished last) => do
      let last ← descend made path step .heading last
      some (entries.put key (.tables finished last))

/-- A table gets its own heading, at most once. -/
def openTable (key : String) : Step := fun _ entries =>
  match entries.lookup key with
  | none => some (entries.put key (.table .heading []))
  | some (.table .implied inner) => some (entries.put key (.table .heading inner))
  | some _ => none

def appendTable (key : String) : Step := fun _ entries =>
  match entries.lookup key with
  | none => some (entries.put key (.tables [] []))
  | some (.tables finished last) => some (entries.put key (.tables (finished ++ [last]) []))
  | some _ => none

/-- A new value. A dotted key adds to tables that dotted keys have made, and to no others. -/
def addValue (path : List String) (key : String) (value : Value) : Step :=
  descend .dotted path fun origin entries =>
    if (origin == .dotted) == path.isEmpty then none
    else if (entries.lookup key).isSome then none
    else some (entries.put key (.leaf value))

mutual

def Node.toValue : Node → Value
  | .leaf value => value
  | .table _ entries => .table (entryValues entries)
  | .tables finished last => .list (tableValues finished ++ [.table (entryValues last)])

def entryValues : List (String × Node) → List (String × Value)
  | [] => []
  | (key, node) :: rest => (key, node.toValue) :: entryValues rest

def tableValues : List (List (String × Node)) → List Value
  | [] => []
  | entries :: rest => .table (entryValues entries) :: tableValues rest

end

end SignedRequest.Configuration.Toml
