import SignedRequest.CommandLine.Run
import SignedRequest.Proofs.CommandLine.HeaderLines
import SignedRequest.Proofs.Http.Writable
import SignedRequest.Proofs.Outcome

/-!
Requests that are built on the command line. A header line appends its values and changes nothing
else, so further lines extend the request that the first ones gave, and every value of a request was
left of some line.
-/

namespace SignedRequest

theorem FieldName.leads (name : FieldName) :
    ':' ∉ name.text.toList ∧ Text.isAllBlank name.text = false := by
  obtain ⟨filled, chars⟩ := name.chars
  refine ⟨fun colon => absurd (chars ':' colon).1 (by decide), ?_⟩
  obtain ⟨c, rest, parts⟩ := List.exists_cons_of_ne_nil (mt String.toList_eq_nil_iff.1 filled)
  have token := (chars c (by simp [parts])).1
  have each := Text.ascii_forall (p := fun c => !isTokenChar c || !Text.isBlank c)
    (by decide +kernel) (isAscii_of_isTokenChar token)
  have solid : Text.isBlank c = false := by simpa [token] using each
  simp [Text.isAllBlank, parts, solid]

theorem FieldName.unbroken (name : FieldName) : ¬[':', ' '] <:+: name.text.toList :=
  fun found => name.leads.1 (found.subset (by simp))

namespace Request

/-- One request is another one with values added to its headers. -/
structure Extends (request other : Request) (added : String → List String) : Prop where
  method : other.method = request.method
  target : other.target = request.target
  body : other.body = request.body
  fieldTexts : ∀ name, other.fieldTexts name = request.fieldTexts name ++ added name

variable {request other last : Request}

theorem Extends.trans {first second : String → List String} (one : Extends request other first)
    (two : Extends other last second) :
    Extends request last fun name => first name ++ second name where
  method := two.method.trans one.method
  target := two.target.trans one.target
  body := two.body.trans one.body
  fieldTexts := fun name => by rw [two.fieldTexts, one.fieldTexts, List.append_assoc]

theorem fieldTexts_appendField (request : Request) (name : FieldName) (value : FieldValue)
    (other : String) :
    (request.appendField name value).fieldTexts other = request.fieldTexts other ++
      if Text.asciiLower other = name.text then [value.text] else [] := by
  unfold fieldTexts appendField
  simp only [← FieldName.ofText?_eq_some_iff]
  cases FieldName.ofText? other with
  | none => simp
  | some found =>
    simp only [Fields.values_append, Option.some.injEq, @eq_comm _ found]
    split <;> simp

theorem extends_foldl_appendField (request : Request) (name : FieldName)
    (values : List FieldValue) :
    Extends request (values.foldl (fun request value => request.appendField name value) request)
      fun other => if Text.asciiLower other = name.text then values.map FieldValue.text else [] := by
  induction values generalizing request with
  | nil => exact ⟨rfl, rfl, rfl, fun other => by simp⟩
  | cons value values ih =>
    have one : Extends request (request.appendField name value) _ :=
      ⟨rfl, rfl, rfl, request.fieldTexts_appendField name value⟩
    obtain ⟨method, target, body, texts⟩ := one.trans (ih (request.appendField name value))
    refine ⟨method, target, body, fun other => (texts other).trans ?_⟩
    split <;> simp

end Request

namespace CommandLine
open Outcome

theorem orFail_eq_ok_iff {α : Type} (failure : Failure) (found : Option α) (value : α) :
    orFail failure found = .ok value ↔ found = some value := by
  cases found <;> simp [orFail]

variable {request other : Request}

theorem addHeader_eq_ok_iff (request other : Request) (line : String) :
    addHeader request line = .ok other ↔
      ∃ header name values, Header.ofLine? line = some header ∧
        FieldName.ofText? header.name.text = some name ∧
        header.values.mapM FieldValue.ofText? = some values ∧
        values.foldl (fun request value => request.appendField name value) request = other := by
  simp only [addHeader, bind_eq_ok_iff, orFail_eq_ok_iff, Except.ok.injEq]
  constructor
  · rintro ⟨header, read, name, named, values, made, rest⟩
    exact ⟨header, name, values, read, named, made, rest⟩
  · rintro ⟨header, name, values, read, named, made, rest⟩
    exact ⟨header, read, name, named, values, made, rest⟩

theorem extends_of_addHeader {line : String} (added : addHeader request line = .ok other) :
    ∃ header name, Header.ofLine? line = some header ∧
      FieldName.ofText? header.name.text = some name ∧
      (∀ text ∈ header.values, FieldValue.Writable text) ∧
      Request.Extends request other fun text =>
        if Text.asciiLower text = name.text then header.values else [] := by
  obtain ⟨header, name, values, read, named, made, rfl⟩ := (addHeader_eq_ok_iff _ _ _).1 added
  obtain ⟨texts, writable⟩ := FieldValue.map_text_of_mapM made
  exact ⟨header, name, read, named, writable, texts ▸ request.extends_foldl_appendField name values⟩

/-- A name and a value, as a header line is written of them. -/
def lineOf (field : FieldName × String) : String := field.1.text ++ ": " ++ field.2

/-- What a list of lines adds to a header. -/
def addedBy (fields : List (FieldName × String)) (name : String) : List String :=
  (fields.filter fun field => Text.asciiLower name == field.1.text).flatMap fun field =>
    settle field.2

theorem addedBy_cons (field : FieldName × String) (fields : List (FieldName × String))
    (name : String) :
    addedBy (field :: fields) name =
      (if Text.asciiLower name = field.1.text then settle field.2 else []) ++
        addedBy fields name := by
  unfold addedBy
  by_cases same : Text.asciiLower name = field.1.text <;> simp [same]

theorem addHeader_lineOf {field : FieldName × String} (added : addHeader request (lineOf field) =
    .ok other) : ¬[':', ' '] <:+: field.2.toList ∧ Request.Extends request other (addedBy [field]) := by
  obtain ⟨header, name, read, named, -, longer⟩ := extends_of_addHeader added
  have unbroken := unbroken_of_ofLine? field.1.unbroken read
  obtain rfl := Option.some.inj
    (read.symm.trans (ofLine?_of_unbroken field.1.unbroken field.1.leads.2 unbroken))
  obtain rfl := Option.some.inj (named.symm.trans field.1.ofText?_text)
  refine ⟨unbroken, ⟨longer.method, longer.target, longer.body, fun name => ?_⟩⟩
  rw [longer.fieldTexts, addedBy_cons]
  simp [addedBy]

theorem exists_addHeader_lineOf (request : Request) {field : FieldName × String}
    (unbroken : ¬[':', ' '] <:+: field.2.toList) (writable : FieldValue.Writable field.2) :
    ∃ other, addHeader request (lineOf field) = .ok other := by
  obtain ⟨values, made⟩ := FieldValue.exists_mapM fun text member =>
    writable.of_subset (settled_of_mem_settle unbroken member).2.subset
  exact ⟨_, (addHeader_eq_ok_iff _ _ _).2 ⟨_, field.1, values,
    ofLine?_of_unbroken field.1.unbroken field.1.leads.2 unbroken, field.1.ofText?_text, made, rfl⟩⟩

theorem foldlM_addHeader_lineOf {fields : List (FieldName × String)}
    (added : (fields.map lineOf).foldlM addHeader request = .ok other) :
    (∀ field ∈ fields, ¬[':', ' '] <:+: field.2.toList) ∧
      Request.Extends request other (addedBy fields) := by
  induction fields generalizing request with
  | nil =>
    obtain rfl := Except.ok.inj added
    exact ⟨by simp, rfl, rfl, rfl, fun name => by simp [addedBy]⟩
  | cons field fields ih =>
    rw [List.map_cons, List.foldlM_cons] at added
    obtain ⟨next, first, rest⟩ := (bind_eq_ok_iff _ _ _).1 added
    obtain ⟨unbroken, one⟩ := addHeader_lineOf first
    obtain ⟨others, two⟩ := ih rest
    refine ⟨List.forall_mem_cons.2 ⟨unbroken, others⟩, ?_⟩
    have both := one.trans two
    exact ⟨both.method, both.target, both.body, fun name => by
      rw [both.fieldTexts, addedBy_cons, addedBy_cons]
      simp [addedBy]⟩

theorem exists_foldlM_addHeader_lineOf (request : Request) {fields : List (FieldName × String)}
    (sound : ∀ field ∈ fields,
      ¬[':', ' '] <:+: field.2.toList ∧ FieldValue.Writable field.2) :
    ∃ other, (fields.map lineOf).foldlM addHeader request = .ok other := by
  induction fields generalizing request with
  | nil => exact ⟨request, rfl⟩
  | cons field fields ih =>
    obtain ⟨⟨unbroken, writable⟩, others⟩ := List.forall_mem_cons.1 sound
    obtain ⟨next, first⟩ := exists_addHeader_lineOf request unbroken writable
    obtain ⟨last, rest⟩ := ih next others
    exact ⟨last, by
      rw [List.map_cons, List.foldlM_cons]
      exact (bind_eq_ok_iff _ _ _).2 ⟨next, first, rest⟩⟩

/-- Values that header lines can leave. -/
def Given (text : String) : Prop := Settled text ∧ FieldValue.Writable text

theorem given_of_foldlM_addHeader {lines : List String}
    (before : ∀ name, ∀ text ∈ request.fieldTexts name, Given text)
    (added : lines.foldlM addHeader request = .ok other) :
    ∀ name, ∀ text ∈ other.fieldTexts name, Given text := by
  induction lines generalizing request with
  | nil =>
    obtain rfl := Except.ok.inj added
    exact before
  | cons line lines ih =>
    obtain ⟨next, first, rest⟩ := (bind_eq_ok_iff _ _ _).1 added
    obtain ⟨header, field, read, -, writable, longer⟩ := extends_of_addHeader first
    refine ih (fun name text member => ?_) rest
    rw [longer.fieldTexts, List.mem_append] at member
    rcases member with old | new
    · exact before name text old
    · split at new
      · exact ⟨settled_of_ofLine? read text new, writable text new⟩
      · simp at new

theorem buildRequest_eq_ok_iff (surroundings : Surroundings) (options : RequestOptions)
    (request : Request) :
    buildRequest surroundings options = .ok request ↔
      ∃ method target bare, Method.ofText? options.method = some method ∧
        Target.ofText? options.url = some target ∧
        options.headers.foldlM addHeader (.ofMethodAndTarget method target) = .ok bare ∧
        ((options.body = none ∧ bare = request) ∨
          ∃ path octets, options.body = some path ∧ surroundings.file? path = some octets ∧
            { bare with body := some octets } = request) := by
  simp only [buildRequest, bind_eq_ok_iff, orFail_eq_ok_iff]
  constructor
  · rintro ⟨method, known, target, parsed, bare, added, rest⟩
    refine ⟨method, target, bare, known, parsed, added, ?_⟩
    cases body : options.body with
    | none =>
      rw [body] at rest
      exact .inl ⟨rfl, Except.ok.inj rest⟩
    | some path =>
      rw [body] at rest
      obtain ⟨octets, read, rest⟩ := (bind_eq_ok_iff _ _ _).1 rest
      exact .inr ⟨path, octets, rfl, (orFail_eq_ok_iff _ _ _).1 read, Except.ok.inj rest⟩
  · rintro ⟨method, target, bare, known, parsed, added, ending⟩
    refine ⟨method, known, target, parsed, bare, added, ?_⟩
    rcases ending with ⟨body, rfl⟩ | ⟨path, octets, body, read, rfl⟩
    · simp [body]
    · simp [body, read, orFail, bind, Except.bind]

theorem given_of_buildRequest {surroundings : Surroundings} {options : RequestOptions}
    (built : buildRequest surroundings options = .ok request) :
    ∀ name, ∀ text ∈ request.fieldTexts name, Given text := by
  obtain ⟨method, target, bare, -, -, added, ending⟩ := (buildRequest_eq_ok_iff _ _ _).1 built
  have none : ∀ name, ∀ text ∈ (Request.ofMethodAndTarget method target).fieldTexts name,
      Given text := by
    intro name text member
    unfold Request.fieldTexts at member
    split at member
    · simp [Request.ofMethodAndTarget, Fields.empty, Fields.values] at member
    · simp at member
  have given := given_of_foldlM_addHeader none added
  rcases ending with ⟨-, rfl⟩ | ⟨_, _, -, -, rfl⟩
  · exact given
  · exact given

def RequestOptions.withLines (options : RequestOptions) (lines : List String) : RequestOptions :=
  { options with headers := options.headers ++ lines }

section
variable {here there : Surroundings} {options : RequestOptions}
  {fields : List (FieldName × String)} (built : buildRequest here options = .ok request)
  (sameBody : ∀ path, options.body = some path → there.file? path = here.file? path)
include built sameBody

theorem buildRequest_withLines (rebuilt : buildRequest there
    (options.withLines (fields.map lineOf)) = .ok other) :
    (∀ field ∈ fields, ¬[':', ' '] <:+: field.2.toList) ∧
      Request.Extends request other (addedBy fields) := by
  obtain ⟨method, target, bare, known, parsed, added, ending⟩ :=
    (buildRequest_eq_ok_iff _ _ _).1 built
  obtain ⟨_, _, longer, knownAgain, parsedAgain, addedAgain, endingAgain⟩ :=
    (buildRequest_eq_ok_iff _ _ _).1 rebuilt
  obtain rfl := Option.some.inj (known.symm.trans knownAgain)
  obtain rfl := Option.some.inj (parsed.symm.trans parsedAgain)
  rw [RequestOptions.withLines, List.foldlM_append, added] at addedAgain
  obtain ⟨unbroken, more⟩ := foldlM_addHeader_lineOf addedAgain
  refine ⟨unbroken, ?_⟩
  rcases ending with ⟨body, rfl⟩ | ⟨path, octets, body, read, rfl⟩
  · rcases endingAgain with ⟨-, rfl⟩ | ⟨_, _, other, -, -⟩
    · exact more
    · simp [RequestOptions.withLines, body] at other
  · rcases endingAgain with ⟨other, -⟩ | ⟨again, octetsAgain, bodyAgain, readAgain, rfl⟩
    · simp [RequestOptions.withLines, body] at other
    · obtain rfl := Option.some.inj (body.symm.trans bodyAgain)
      rw [sameBody path body, read] at readAgain
      obtain rfl := Option.some.inj readAgain
      exact ⟨more.method, more.target, rfl, more.fieldTexts⟩

theorem exists_buildRequest_withLines (sound : ∀ field ∈ fields,
    ¬[':', ' '] <:+: field.2.toList ∧ FieldValue.Writable field.2) :
    ∃ other, buildRequest there (options.withLines (fields.map lineOf)) = .ok other := by
  obtain ⟨method, target, bare, known, parsed, added, ending⟩ :=
    (buildRequest_eq_ok_iff _ _ _).1 built
  obtain ⟨longer, more⟩ := exists_foldlM_addHeader_lineOf bare sound
  have whole : (options.headers ++ fields.map lineOf).foldlM addHeader
      (Request.ofMethodAndTarget method target) = .ok longer := by
    rw [List.foldlM_append, added]
    exact more
  simp only [buildRequest_eq_ok_iff]
  rcases ending with ⟨body, -⟩ | ⟨path, octets, body, read, -⟩
  · exact ⟨longer, method, target, longer, known, parsed, whole, .inl ⟨body, rfl⟩⟩
  · exact ⟨_, method, target, longer, known, parsed, whole,
      .inr ⟨path, octets, body, (sameBody path body).trans read, rfl⟩⟩

end

end CommandLine
end SignedRequest
