import SignedRequest.Authorization.Parameters
import SignedRequest.Proofs.Authorization.Contents
import SignedRequest.Proofs.Authorization.Reading
import SignedRequest.Proofs.Text.LowerCase
import SignedRequest.Proofs.Text.Words

/-!
The parameters of a signature are read back as they were written. What the reading makes of a
signature is its normal form: texts that are empty count as absent, times are whole seconds and the
names are words in lower case.
-/

namespace SignedRequest.Authorization

inductive WrittenValue where
  | quoted (text : String)
  | bare (n : Nat)

def WrittenValue.content : WrittenValue → String
  | quoted text => text
  | bare n => toString n

structure Written where
  key : String
  value : WrittenValue

namespace Written

def render (parameter : Written) : String :=
  match parameter.value with
  | .quoted text => quoted parameter.key text
  | .bare n => bare parameter.key n

def pair (parameter : Written) : String × String := (parameter.key, parameter.value.content)

/-- The parameter has a name that can be read, and no quotation mark in its value. -/
structure Legible (parameter : Written) : Prop where
  key : isKey parameter.key = true
  value : ∀ text, parameter.value = .quoted text → '"' ∉ text.toList

theorem Legible.quoted {key text : String} (named : isKey key = true)
    (plain : '"' ∉ text.toList) : Legible ⟨key, .quoted text⟩ :=
  ⟨named, fun other same => by cases same; exact plain⟩

theorem Legible.bare {key : String} (named : isKey key = true) (n : Nat) :
    Legible ⟨key, .bare n⟩ :=
  ⟨named, nofun⟩

end Written

theorem isParameter_render {parameter : Written} (legible : parameter.Legible) :
    IsParameter parameter.pair parameter.render.toList := by
  obtain ⟨name, value⟩ := parameter
  have named := spelling_of_isKey legible.key
  cases value with
  | quoted text =>
    have spelt := IsParameter.intro isGap_nil named isGap_nil isGap_nil
      (.inl (.quoted (legible.value text rfl))) isGap_nil
    simpa [Written.render, Written.pair, WrittenValue.content, quoted, String.toList_append]
      using spelt
  | bare n =>
    have spelt := IsParameter.intro isGap_nil named isGap_nil isGap_nil
      (.inr (spelling_toString n)) isGap_nil
    simpa [Written.render, Written.pair, WrittenValue.content, bare, String.toList_append]
      using spelt

theorem isSequence_render {written : List Written}
    (legible : ∀ parameter ∈ written, parameter.Legible) :
    IsSequence (written.map Written.pair)
      (",".intercalate (written.map Written.render)).toList := by
  induction written with
  | nil => exact .nil isGap_nil
  | cons parameter rest ih =>
    obtain ⟨here, later⟩ := List.forall_mem_cons.1 legible
    cases rest with
    | nil => exact .last (isParameter_render here)
    | cons following rest =>
      have parts : (",".intercalate ((parameter :: following :: rest).map Written.render)).toList =
          parameter.render.toList ++
            ',' :: (",".intercalate ((following :: rest).map Written.render)).toList := by
        simp [String.intercalate_cons_cons, String.toList_append]
      rw [parts]
      exact .cons (isParameter_render here) (ih later)

theorem contentOf?_append (front back : List (String × String)) (name : String) :
    contentOf? (front ++ back) name = (contentOf? front name).or (contentOf? back name) := by
  unfold contentOf?
  rw [List.find?_append]
  cases front.find? fun pair => pair.1 == name <;> rfl

theorem contentOf?_singleton (key content name : String) :
    contentOf? [(key, content)] name = if key = name then some content else none := by
  by_cases same : key = name <;> simp [contentOf?, same]

theorem contentOf?_toList {α : Type} (key : String) (content : α → String) (carried : Option α)
    (name : String) :
    contentOf? (carried.map fun value => (key, content value)).toList name =
      if key = name then carried.map content else none := by
  cases carried with
  | none => simp [contentOf?]
  | some value => exact contentOf?_singleton key (content value) name

def written (signature : Signature) : List Written :=
  [⟨"keyId", .quoted signature.keyId.text⟩] ++
    (signature.algorithm.map fun text => ⟨"algorithm", .quoted text⟩).toList ++
    (signature.created.map fun time => ⟨"created", .bare time.unixSeconds⟩).toList ++
    (signature.expires.map fun time => ⟨"expires", .bare time.unixSeconds⟩).toList ++
    [⟨"headers", .quoted (headerList signature.headers)⟩] ++
    (signature.nonce.map fun text => ⟨"nonce", .quoted text⟩).toList ++
    [⟨"signature", .quoted signature.string⟩]

theorem map_render_written (signature : Signature) :
    (written signature).map Written.render = parameters signature := by
  simp [written, parameters, Written.render, List.map_append, Option.toList_map, Function.comp_def]

/-- The signature that is made of what is written of another. -/
def normal (signature : Signature) : Signature where
  keyId := signature.keyId
  algorithm := signature.algorithm.filter fun text => !text.isEmpty
  created := signature.created.bind fun time => Instant.ofUnixSeconds? time.unixSeconds
  expires := signature.expires.bind fun time => Instant.ofUnixSeconds? time.unixSeconds
  headers := (Text.words (headerList signature.headers)).map HeaderName.mk
  string := signature.string
  nonce := signature.nonce.filter fun text => !text.isEmpty

theorem isDecimal_toString (n : Nat) : IsDecimal (toString n).toList n := by
  refine ⟨_, .inl rfl, ?_, fun c => isDigit_of_mem_toString, ?_⟩
  · rw [toList_toString]
    exact Nat.toDigits_ne_nil
  · rw [toList_toString]
    exact Nat.ofDigitChars_ten_toDigits

theorem map_pair_written (signature : Signature) :
    (written signature).map Written.pair =
      [("keyId", signature.keyId.text)] ++
        (signature.algorithm.map fun text => ("algorithm", text)).toList ++
        (signature.created.map fun time => ("created", toString time.unixSeconds)).toList ++
        (signature.expires.map fun time => ("expires", toString time.unixSeconds)).toList ++
        [("headers", headerList signature.headers)] ++
        (signature.nonce.map fun text => ("nonce", text)).toList ++
        [("signature", signature.string)] := by
  simp [written, Written.pair, WrittenValue.content, List.map_append, Option.toList_map,
    Function.comp_def]

theorem nodup_written (signature : Signature) : ((written signature).map Written.key).Nodup := by
  have carried {α : Type} (key : String) (value : Option α) (write : α → WrittenValue) :
      ((value.map fun value => Written.mk key (write value)).toList.map Written.key).Sublist
        [key] := by
    cases value with
    | none => simp
    | some value => simp
  have names : ((written signature).map Written.key).Sublist
      (["keyId"] ++ ["algorithm"] ++ ["created"] ++ ["expires"] ++ ["headers"] ++ ["nonce"] ++
        ["signature"]) := by
    simp only [written, List.map_append]
    exact ((((((List.Sublist.refl _).append (carried _ _ _)).append (carried _ _ _)).append
      (carried _ _ _)).append (List.Sublist.refl _)).append (carried _ _ _)).append
        (List.Sublist.refl _)
  exact names.nodup (by decide)

theorem timed_written (signature : Signature) {pair : String × String}
    (member : pair ∈ (written signature).map Written.pair) (stamp : isTimestamp pair.1 = true) :
    (secondsOf? pair.2.toList).isSome = true := by
  have told (time : Instant) : (secondsOf? (toString time.unixSeconds).toList).isSome = true := by
    rw [secondsOf?_of_isDecimal (isDecimal_toString _)]
    exact Option.isSome_iff_exists.2 time.exists_ofUnixSeconds?
  simp only [map_pair_written, List.mem_append, List.mem_singleton, Option.mem_toList,
    Option.map_eq_some_iff] at member
  rcases member with ((((((rfl | ⟨_, _, rfl⟩) | ⟨time, _, rfl⟩) | ⟨time, _, rfl⟩) | rfl) |
    ⟨_, _, rfl⟩) | rfl)
  · simp [isTimestamp] at stamp
  · simp [isTimestamp] at stamp
  · exact told time
  · exact told time
  · simp [isTimestamp] at stamp
  · simp [isTimestamp] at stamp
  · simp [isTimestamp] at stamp

theorem contentOf?_written (signature : Signature) (name : String) :
    contentOf? ((written signature).map Written.pair) name =
      ((((((if "keyId" = name then some signature.keyId.text else none).or
        (if "algorithm" = name then signature.algorithm else none)).or
        (if "created" = name then signature.created.map (toString ·.unixSeconds) else none)).or
        (if "expires" = name then signature.expires.map (toString ·.unixSeconds) else none)).or
        (if "headers" = name then some (headerList signature.headers) else none)).or
        (if "nonce" = name then signature.nonce else none)).or
        (if "signature" = name then some signature.string else none) := by
  have texts (key : String) (carried : Option String) :
      contentOf? (carried.map fun text => (key, text)).toList name =
        if key = name then carried else none := by
    rw [contentOf?_toList key (fun text => text), Option.map_id']
  simp only [map_pair_written, contentOf?_append, contentOf?_singleton, contentOf?_toList, texts]

/-- No text of the signature has a quotation mark. -/
structure Plain (signature : Signature) : Prop where
  keyId : '"' ∉ signature.keyId.text.toList
  algorithm : ∀ text, signature.algorithm = some text → '"' ∉ text.toList
  headers : ∀ name ∈ signature.headers, '"' ∉ name.text.toList
  nonce : ∀ text, signature.nonce = some text → '"' ∉ text.toList
  string : '"' ∉ signature.string.toList

theorem not_mem_headerList {names : List HeaderName}
    (plain : ∀ name ∈ names, '"' ∉ name.text.toList) : '"' ∉ (headerList names).toList := by
  intro member
  rw [headerList, String.toList_intercalate] at member
  rcases Text.mem_intercalate member with between | ⟨_, listed, inside⟩
  · exact absurd between (by decide)
  · obtain ⟨_, lowered, rfl⟩ := List.mem_map.1 listed
    obtain ⟨name, known, rfl⟩ := List.mem_map.1 lowered
    exact plain name known (Text.mem_of_mem_lower inside (by decide))

theorem Plain.legible {signature : Signature} (plain : Plain signature) :
    ∀ parameter ∈ written signature, parameter.Legible := by
  intro parameter member
  simp only [written, List.mem_append, List.mem_singleton, Option.mem_toList,
    Option.map_eq_some_iff] at member
  rcases member with ((((((rfl | ⟨text, told, rfl⟩) | ⟨time, _, rfl⟩) | ⟨time, _, rfl⟩) | rfl) |
    ⟨text, told, rfl⟩) | rfl)
  · exact .quoted (by decide) plain.keyId
  · exact .quoted (by decide) (plain.algorithm text told)
  · exact .bare (by decide) _
  · exact .bare (by decide) _
  · exact .quoted (by decide) (not_mem_headerList plain.headers)
  · exact .quoted (by decide) (plain.nonce text told)
  · exact .quoted (by decide) plain.string

theorem parse_render_eq {signature : Signature} (plain : Plain signature) :
    parse (render signature) = .ok (normal signature) := by
  have sequence := isSequence_render plain.legible
  rw [map_render_written] at sequence
  obtain ⟨parameters, read, pairs⟩ :=
    parametersOf_of_isSequence sequence (render signature).utf8ByteSize 0
  have names : parameters.map Parameter.name = (written signature).map Written.key := by
    have firsts := congrArg (List.map Prod.fst) pairs
    rw [List.map_map, List.map_map] at firsts
    exact firsts
  have checked : checkParameters [] parameters = .ok () := by
    refine (checkParameters_eq_ok_iff [] parameters).2 ⟨by simp, ?_, ?_⟩
    · rw [names]
      exact nodup_written signature
    · intro parameter member stamp
      have found : parameter.pair ∈ (written signature).map Written.pair := by
        rw [← pairs]
        exact List.mem_map_of_mem member
      simpa [Parameter.pair, Parameter.text] using timed_written signature found stamp
  have content := contentOf?_written signature
  rw [← pairs] at content
  have named : contentOf? (parameters.map Parameter.pair) "keyId" = some signature.keyId.text := by
    simp [content]
  have signed : contentOf? (parameters.map Parameter.pair) "signature" =
      some signature.string := by
    simp [content]
  have made := signatureOf_eq_ok (render signature).utf8ByteSize named signed
  have times (time : Option Instant) :
      (time.map (toString ·.unixSeconds)).bind (fun text => secondsOf? text.toList) =
        time.bind fun time => Instant.ofUnixSeconds? time.unixSeconds := by
    rw [Option.bind_map]
    simp only [Function.comp_def, secondsOf?_of_isDecimal (isDecimal_toString _)]
  simp only [content, String.reduceEq, ↓reduceIte, Option.none_or, Option.or_none,
    Option.getD_some, times] at made
  exact (parse_eq_ok_iff _ _).2 ⟨parameters, read, checked, made⟩

end SignedRequest.Authorization
