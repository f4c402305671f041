import Mathlib.Data.List.Basic
import SignedRequest.Proofs.Header
import SignedRequest.Proofs.Http.Fields
import SignedRequest.Proofs.Text.Words
import SignedRequest.Proofs.Time
import SignedRequest.SigningString

/-!
What the text that is signed depends on: of the request, its method, its target and the values of
the listed headers, of the lifetime its whole seconds, and of a name what lower case leaves of it.
These seconds are not cut off if the lifetime ends at a point in time.
-/

namespace SignedRequest.SigningString

variable {request other : Request} {name : HeaderName} (time : Instant) {lifetime : Duration}

theorem line?_congr (method : request.method = other.method)
    (target : request.target.pathAndQuery? = other.target.pathAndQuery?)
    (values : request.fieldTexts name.text = other.fieldTexts name.text) (lifetime : Duration) :
    line? request time lifetime name = line? other time lifetime name := by
  have date (dated : (name == .date) = true) :
      request.firstFieldText? "date" = other.firstFieldText? "date" := by
    have same : Text.asciiLower name.text = Text.asciiLower "date" :=
      (HeaderName.beq_iff name .date).1 dated
    rw [request.fieldTexts_congr same, other.fieldTexts_congr same] at values
    exact congrArg List.head? values
  have carried : request.hasField name.text = other.hasField name.text := by
    rw [Request.hasField_eq, Request.hasField_eq, values]
  unfold line? requestTarget
  rw [method, target, carried, values]
  split
  · rfl
  · split
    · rfl
    · split
      · rfl
      · split
        · rename_i dated
          rw [date dated]
        · rfl

theorem line?_lifetime {again : Duration} (seconds : lifetime.seconds = again.seconds) :
    line? request time lifetime name = line? request time again name := by
  simp only [line?, expiresSeconds, seconds]

theorem expiresSeconds_of_add? {time later : Instant} (sum : time.add? lifetime = some later) :
    expiresSeconds time lifetime = time.unixSeconds + lifetime.seconds := by
  have fits := Instant.unixSeconds_add_lt sum
  unfold expiresSeconds
  omega

theorem expiresSeconds_since (created expires : Instant) :
    expiresSeconds created (expires.since created) =
      created.unixSeconds + (expires.since created).seconds := by
  obtain ⟨later, sum⟩ := Instant.exists_add?_since created expires
  exact expiresSeconds_of_add? sum

theorem lower_beq {special : HeaderName} (known : special ∈ HeaderName.special) :
    ((⟨name.lower⟩ : HeaderName) == special) = (name == special) := by
  rw [Bool.eq_iff_iff, HeaderName.beq_iff, HeaderName.beq_iff,
    HeaderName.key_lower_eq_iff (HeaderName.plain_special special known)]

theorem hasField_of_isPseudo (request : Request) (pseudo : name.isPseudo = true) :
    request.hasField name.text = false := by
  obtain ⟨inner, same⟩ := (HeaderName.isPseudo_iff name).1 pseudo
  rw [← Bool.not_eq_true]
  intro carried
  have token := request.isTokenChar_of_hasField carried '(' (by simp [same, String.toList_append])
  exact absurd token (by decide)

theorem fieldTexts_of_isPseudo (request : Request) (pseudo : name.isPseudo = true) :
    request.fieldTexts name.text = [] := by
  by_contra carried
  have found := (request.hasField_iff name.text).2 carried
  simp [hasField_of_isPseudo request pseudo] at found

theorem line?_of_key (request : Request) {again : HeaderName} (key : name.key = again.key)
    (lower : name.lower = again.lower) (lifetime : Duration) :
    line? request time lifetime name = line? request time lifetime again := by
  have matching (special : HeaderName) : (name == special) = (again == special) := by
    rw [Bool.eq_iff_iff, HeaderName.beq_iff, HeaderName.beq_iff, key]
  have carried : request.hasField name.text = request.hasField again.text :=
    request.hasField_congr key
  have values : request.fieldTexts name.text = request.fieldTexts again.text :=
    request.fieldTexts_congr key
  simp only [line?, matching, lower, carried, values, Header.line, Header.ofValues]

theorem line?_eq_none (request : Request)
    (unknown : ∀ special ∈ HeaderName.special, (name == special) = false)
    (missing : request.hasField name.text = false) (lifetime : Duration) :
    line? request time lifetime name = none := by
  simp only [HeaderName.special, List.forall_mem_cons] at unknown
  obtain ⟨target, created, expires, date, _⟩ := unknown
  simp [line?, target, created, expires, date, missing]

/-- A name is signed as it is in lower case: a pseudo-header contributes its line if it is one of
those that are known, and the name of a header is of ASCII. -/
theorem line?_lower (request : Request) (lifetime : Duration)
    (legible : name.isPseudo = true ∨ Text.IsAscii name.text) :
    line? request time lifetime ⟨name.lower⟩ = line? request time lifetime name := by
  by_cases ascii : Text.IsAscii name.text
  · exact line?_of_key time request (HeaderName.key_lower ascii) (HeaderName.lower_lower ascii)
      lifetime
  · have pseudo := legible.resolve_right ascii
    have unknown : ∀ special ∈ HeaderName.special, (name == special) = false := by
      intro special member
      rw [← Bool.not_eq_true, HeaderName.beq_iff]
      exact fun same =>
        ascii (HeaderName.isAscii_of_key (HeaderName.plain_special special member).ascii same)
    rw [line?_eq_none time request unknown (hasField_of_isPseudo request pseudo),
      line?_eq_none time request ?_
        (hasField_of_isPseudo request (HeaderName.isPseudo_lower pseudo))]
    intro special member
    rw [lower_beq member, unknown special member]

theorem nonceLine?_filter (nonce : Option String) :
    nonceLine? (nonce.filter fun text => !text.isEmpty) = nonceLine? nonce := by
  cases nonce with
  | none => rfl
  | some text =>
    by_cases empty : text.isEmpty = true
    · rw [Option.filter_some, if_neg (by simpa using empty), nonceLine?, nonceLine?, if_pos empty]
    · rw [Option.filter_some, if_pos (by simpa using empty)]

variable {names : List HeaderName} (nonce : Option String)

/-- Two requests have in common what is signed of them under a list of names. -/
structure Agrees (request other : Request) (names : List HeaderName) : Prop where
  method : request.method = other.method
  target : request.target.pathAndQuery? = other.target.pathAndQuery?
  values : ∀ name ∈ names, request.fieldTexts name.text = other.fieldTexts name.text

theorem Agrees.fieldTexts_eq (agrees : Agrees request other names) (listed : name.Occurs names) :
    request.fieldTexts name.text = other.fieldTexts name.text := by
  obtain ⟨found, member, same⟩ := listed
  rw [← request.fieldTexts_congr same, ← other.fieldTexts_congr same]
  exact agrees.values found member

theorem filterMap_line?_congr (agrees : Agrees request other names) (lifetime : Duration) :
    names.filterMap (line? request time lifetime) =
      names.filterMap (line? other time lifetime) := by
  apply List.filterMap_congr
  intro name member
  exact line?_congr time agrees.method agrees.target (agrees.values name member) lifetime

theorem compose_congr (agrees : Agrees request other names) (lifetime : Duration) :
    compose request names time lifetime nonce = compose other names time lifetime nonce := by
  rw [compose, lines, filterMap_line?_congr time agrees, compose, lines]

theorem agrees_setField (request : Request) (set : FieldName) (value : FieldValue)
    (unlisted : ∀ name ∈ names, name.key ≠ set.text) :
    Agrees (request.setField set value) request names where
  method := rfl
  target := rfl
  values name member :=
    (request.fieldTexts_setField set value name.text).trans (if_neg (unlisted name member))

theorem compose_lifetime {again : Duration} (seconds : lifetime.seconds = again.seconds) :
    compose request names time lifetime nonce = compose request names time again nonce := by
  have same : names.filterMap (line? request time lifetime) =
      names.filterMap (line? request time again) := by
    apply List.filterMap_congr
    intro name _
    exact line?_lifetime time seconds
  rw [compose, lines, same, compose, lines]

theorem compose_lower (legible : ∀ name ∈ names, name.isPseudo = true ∨ Text.IsAscii name.text)
    (lifetime : Duration) :
    compose request (names.map fun name => ⟨name.lower⟩) time lifetime nonce =
      compose request names time lifetime nonce := by
  have same : names.filterMap (line? request time lifetime ∘ fun name => ⟨name.lower⟩) =
      names.filterMap (line? request time lifetime) := by
    apply List.filterMap_congr
    intro name member
    rw [Function.comp_apply]
    exact line?_lower time request lifetime (legible name member)
  rw [compose, lines, List.filterMap_map, same, compose, lines]

theorem compose_filter (lifetime : Duration) :
    compose request names time lifetime (nonce.filter fun text => !text.isEmpty) =
      compose request names time lifetime nonce := by
  rw [compose, lines, nonceLine?_filter, compose, lines]

theorem nonceLine?_some {text : String} (nonempty : text ≠ "") :
    nonceLine? (some text) = some ("nonce: " ++ Text.trim text) := by
  have filled : ¬text.isEmpty = true := by simpa using nonempty
  have name : (HeaderName.mk "nonce").lower = "nonce" := by decide +kernel
  rw [nonceLine?, if_neg filled, Header.line, Header.ofValues, name]
  by_cases blank : Text.trim text = ""
  · simp [blank]
  · simp [blank]

/-- What follows the last line feed of a text. -/
def lastLine (text : String) : List Char :=
  (text.toList.reverse.takeWhile (· != '\n')).reverse

theorem lastLine_of_unbroken {text : String} (unbroken : '\n' ∉ text.toList) :
    lastLine text = text.toList := by
  have all : ∀ c ∈ text.toList.reverse, (c != '\n') = true := fun c member =>
    bne_iff_ne.2 fun same => unbroken (same ▸ List.mem_reverse.1 member)
  rw [lastLine, ← List.append_nil text.toList.reverse, List.takeWhile_append_of_pos all]
  simp

theorem lastLine_append (front : String) {line : String} (unbroken : '\n' ∉ line.toList) :
    lastLine (front ++ "\n" ++ line) = line.toList := by
  have all : ∀ c ∈ line.toList.reverse, (c != '\n') = true := fun c member =>
    bne_iff_ne.2 fun same => unbroken (same ▸ List.mem_reverse.1 member)
  have chars : (front ++ "\n" ++ line).toList.reverse =
      line.toList.reverse ++ '\n' :: front.toList.reverse := by
    simp [String.toList_append]
  rw [lastLine, chars, List.takeWhile_append_of_pos all, List.takeWhile_cons_of_neg (by decide),
    List.append_nil, List.reverse_reverse]

theorem lastLine_compose (request : Request) (names : List HeaderName) (time : Instant)
    (lifetime : Duration) {text : String} (nonempty : text ≠ "") (unbroken : '\n' ∉ text.toList) :
    lastLine (compose request names time lifetime (some text)) =
      ("nonce: " ++ Text.trim text).toList := by
  have line : '\n' ∉ ("nonce: " ++ Text.trim text).toList := by
    rw [String.toList_append, List.mem_append, not_or]
    exact ⟨by decide, fun member => unbroken (Text.mem_of_mem_trim member)⟩
  rw [compose, lines, nonceLine?_some nonempty, Option.toList_some]
  by_cases alone : names.filterMap (line? request time lifetime) = []
  · rw [alone, List.nil_append, String.intercalate_singleton]
    exact lastLine_of_unbroken line
  · rw [String.intercalate_append_of_ne_nil alone (by simp), String.intercalate_singleton]
    exact lastLine_append _ line

end SignedRequest.SigningString
