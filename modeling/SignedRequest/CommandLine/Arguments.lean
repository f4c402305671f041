/-!
The arguments of the tool. A command comes first and its options after it; an option has a long and
a short name, and its value follows it as the next argument or in the same one.
-/

namespace SignedRequest.CommandLine

structure RequestOptions where
  method : String
  url : String
  headers : List String
  body : Option String

inductive Command where
  | parse (parameters : String)
  | sign (configuration : String) (request : RequestOptions)
  | verify (configuration : String) (request : RequestOptions)

def Command.paths : Command → List String
  | parse _ => []
  | sign configuration request => configuration :: request.body.toList
  | verify configuration request => configuration :: request.body.toList

inductive Refusal where
  | help
  | version
  | misuse

inductive Key where
  | configuration
  | method
  | url
  | header
  | body

namespace Key

def ofLong? : String → Option Key
  | "config" => some configuration
  | "method" => some method
  | "url" => some url
  | "header" => some header
  | "body" => some body
  | _ => none

def ofShort? : Char → Option Key
  | 'c' => some configuration
  | 'X' => some method
  | 'u' => some url
  | 'H' => some header
  | 'b' => some body
  | _ => none

end Key

/-- The options so far; all but the headers may be given once. -/
structure Draft where
  configuration : Option String := none
  method : Option String := none
  url : Option String := none
  headers : List String := []
  body : Option String := none

namespace Draft

def once (old : Option String) (value : String) : Except Refusal (Option String) :=
  if old.isSome then .error .misuse else .ok (some value)

def path (old : Option String) (value : String) : Except Refusal (Option String) :=
  if value.isEmpty then .error .misuse else once old value

def add (draft : Draft) (key : Key) (value : String) : Except Refusal Draft :=
  match key with
  | .configuration => do .ok { draft with configuration := ← path draft.configuration value }
  | .method => do .ok { draft with method := ← once draft.method value }
  | .url => do .ok { draft with url := ← once draft.url value }
  | .header => .ok { draft with headers := draft.headers ++ [value] }
  | .body => do .ok { draft with body := ← path draft.body value }

def finish (draft : Draft) : Except Refusal (String × RequestOptions) :=
  match draft.configuration, draft.url with
  | some configuration, some url =>
    .ok (configuration, ⟨draft.method.getD "GET", url, draft.headers, draft.body⟩)
  | _, _ => .error .misuse

end Draft

inductive Shape where
  /-- Two hyphens alone: what follows is no option. -/
  | stop
  /-- A long name, perhaps with a value behind an equals sign. -/
  | long (name : String) (value : Option String)
  /-- A short name, perhaps with a value right behind it or behind an equals sign. -/
  | short (name : Char) (value : Option String)
  | plain (text : String)

def attached : List Char → Option String
  | [] => none
  | '=' :: value => some (String.ofList value)
  | value => some (String.ofList value)

def Shape.of (argument : String) : Shape :=
  match argument.toList with
  | ['-', '-'] => .stop
  | '-' :: '-' :: cs =>
    let name := cs.takeWhile (· != '=')
    .long (String.ofList name) (attached (cs.drop name.length))
  | '-' :: c :: cs => .short c (attached cs)
  | _ => .plain argument

/-- Adds the option to the draft; without a value of its own it takes the next argument, which must
not look like an option. -/
def addOption (draft : Draft) (key : Option Key) (value : Option String) (rest : List String) :
    Except Refusal (Draft × List String) :=
  match key, value, rest with
  | none, _, _ => .error .misuse
  | some key, some value, rest => do .ok (← draft.add key value, rest)
  | some _, none, [] => .error .misuse
  | some key, none, next :: rest =>
    match Shape.of next with
    | .plain value => do .ok (← draft.add key value, rest)
    | _ => .error .misuse

def options (draft : Draft) (arguments : List String) : Except Refusal Draft :=
  match arguments with
  | [] => .ok draft
  | argument :: rest =>
    match Shape.of argument with
    | .stop => if rest.isEmpty then .ok draft else .error .misuse
    | .plain _ => .error .misuse
    | .short 'h' _ => .error .help
    | .long "help" none => .error .help
    | .short name value =>
      match addOption draft (Key.ofShort? name) value rest with
      | .ok (draft, later) =>
        if later.length ≤ rest.length then options draft later else .error .misuse
      | .error refusal => .error refusal
    | .long name value =>
      match addOption draft (Key.ofLong? name) value rest with
      | .ok (draft, later) =>
        if later.length ≤ rest.length then options draft later else .error .misuse
      | .error refusal => .error refusal
termination_by arguments.length
decreasing_by all_goals grind

/-- Exactly one argument that is no option, or any one argument after two hyphens. -/
def parameter (before : Option String) : List String → Except Refusal String
  | [] =>
    match before with
    | some text => .ok text
    | none => .error .misuse
  | argument :: rest =>
    match Shape.of argument, before, rest with
    | .stop, some text, [] => .ok text
    | .stop, none, [text] => .ok text
    | .plain text, none, rest => parameter (some text) rest
    | .short 'h' _, _, _ => .error .help
    | .long "help" none, _, _ => .error .help
    | _, _, _ => .error .misuse

def commandNames : List String := ["parse", "sign", "verify", "help"]

def Command.ofArguments : List String → Except Refusal Command
  | "parse" :: rest => .parse <$> parameter none rest
  | "sign" :: rest => do
    let (configuration, request) ← (← options {} rest).finish
    .ok (.sign configuration request)
  | "verify" :: rest => do
    let (configuration, request) ← (← options {} rest).finish
    .ok (.verify configuration request)
  | ["help"] => .error .help
  | ["help", name] => .error (if commandNames.contains name then .help else .misuse)
  | argument :: _ =>
    match Shape.of argument with
    | .short 'h' _ => .error .help
    | .long "help" none => .error .help
    | .short 'V' _ => .error .version
    | .long "version" none => .error .version
    | _ => .error .misuse
  | [] => .error .misuse

end SignedRequest.CommandLine
