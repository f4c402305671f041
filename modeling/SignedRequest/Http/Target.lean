import SignedRequest.Bytes

/-!
Request targets. A target is the path and query alone, or an absolute URI, or only an authority; a
fragment is dropped. What is signed is the path and query.
-/

namespace SignedRequest

inductive Target where
  /-- A path and query, or the asterisk. -/
  | origin (pathAndQuery : String)
  | absolute (scheme authority pathAndQuery : String)
  | authority (authority : String)
  deriving DecidableEq, Inhabited

namespace Target

/-- An empty path without a query counts as the root. -/
def rooted (pathAndQuery : String) : String :=
  if pathAndQuery.isEmpty then "/" else pathAndQuery

def pathAndQuery? : Target → Option String
  | origin text => some (rooted text)
  | absolute _ _ text => some (rooted text)
  | authority _ => none

def isPathChar (c : Char) : Bool :=
  let n := c.toNat
  n == 0x21 || n == 0x22 || (0x24 ≤ n && n ≤ 0x3B) || n == 0x3D || (0x40 ≤ n && n ≤ 0x5F) ||
    (0x61 ≤ n && n ≤ 0x7E) || 0x7F ≤ n

def isQueryChar (c : Char) : Bool :=
  let n := c.toNat
  n == 0x21 || (0x24 ≤ n && n ≤ 0x3B) || n == 0x3D || 0x3F ≤ n

/-- The path and query that a text begins with and a fragment may follow. -/
def pathAndQueryOf? (cs : List Char) : Option String :=
  let whole := cs.takeWhile (· != '#')
  let path := whole.takeWhile (· != '?')
  let query := (whole.drop path.length).drop 1
  if path.all isPathChar && query.all isQueryChar then some (String.ofList whole) else none

def isSchemeChar (c : Char) : Bool := c.isAlphanum || "+-.~".toList.contains c

/-- The scheme of an absolute URI and what follows `://`. -/
def splitScheme? (cs : List Char) : Option (List Char × List Char) :=
  let scheme := cs.takeWhile isSchemeChar
  match cs.drop scheme.length with
  | ':' :: '/' :: '/' :: rest => some (scheme, rest)
  | _ => none

def longestScheme : Nat := 64

def longest : Nat := 65534

def isAuthorityChar (c : Char) : Bool :=
  c.isAlphanum || "!$&'()*+,-.:;=@[]_~%".toList.contains c

/-- What has been seen of an authority. Colons and percent signs count since the last at sign or
closing bracket only. -/
structure AuthorityScan where
  colons : Nat := 0
  opened : Bool := false
  closed : Bool := false
  percent : Bool := false

/-- At most eight colons in a row of address parts, and one pair of brackets. -/
def AuthorityScan.step (scan : AuthorityScan) (c : Char) : Option AuthorityScan :=
  if !isAuthorityChar c then none
  else if c = ':' then
    if scan.colons < 8 then some { scan with colons := scan.colons + 1 } else none
  else if c = '[' then
    if scan.percent || scan.opened then none else some { scan with opened := true }
  else if c = ']' then
    if !scan.opened || scan.closed then none
    else some { scan with closed := true, colons := 0, percent := false }
  else if c = '@' then some { scan with colons := 0, percent := false }
  else if c = '%' then some { scan with percent := true }
  else some scan

def isAuthority (cs : List Char) : Bool :=
  match cs.foldlM AuthorityScan.step {} with
  | none => false
  | some scan =>
    scan.opened == scan.closed && scan.colons ≤ 1 && !scan.percent && cs.getLast? != some '@'

/-- An authority ends where a path, a query or a fragment begins. -/
def splitAuthority (cs : List Char) : List Char × List Char :=
  let authority := cs.takeWhile fun c => c != '/' && c != '?' && c != '#'
  (authority, cs.drop authority.length)

def authorityOf? (cs : List Char) : Option Target :=
  let (name, rest) := splitAuthority cs
  if rest = [] ∧ name ≠ [] ∧ isAuthority name then some (.authority (String.ofList name)) else none

def absoluteOf? (scheme afterScheme : List Char) : Option Target := do
  let (name, rest) := splitAuthority afterScheme
  if longestScheme < scheme.length ∨ name = [] ∨ !isAuthority name then none
  let text ← pathAndQueryOf? rest
  some (.absolute (String.ofList scheme) (String.ofList name) text)

def ofText? (text : String) : Option Target :=
  let cs := text.toList
  if longest < text.utf8ByteSize then none
  else
    match cs with
    | [] => none
    | ['*'] => some (.origin "*")
    | '/' :: _ => (pathAndQueryOf? cs).map .origin
    | _ =>
      match splitScheme? cs with
      | some (scheme, rest) => absoluteOf? scheme rest
      | none => authorityOf? cs

end Target
end SignedRequest
