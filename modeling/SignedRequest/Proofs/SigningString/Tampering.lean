import SignedRequest.Proofs.SigningString.Lines

/-!
What cannot be changed without changing the text that is signed. Of two requests with headers of the
same names, the texts are the same exactly if the requests agree on all that is listed. The request
target may have line feeds of its own and be listed again and again; but then it has as many of them
in both requests, since their number in the texts is the same, and so the lines are found at the
same places.
-/

namespace SignedRequest.SigningString

variable {request other : Request} {names : List HeaderName} {nonce : Option String}

def decodedTarget (request : Request) : String :=
  Percent.decodeText (request.target.pathAndQuery?.getD "/")

def SameNames (request other : Request) : Prop :=
  ∀ name, request.fields.contains name = other.fields.contains name

theorem SameNames.hasField (sameNames : SameNames request other) (text : String) :
    request.hasField text = other.hasField text := by
  unfold Request.hasField
  cases FieldName.ofText? text with
  | none => rfl
  | some name => exact sameNames name

theorem SameNames.contributes (sameNames : SameNames request other) :
    SigningString.contributes request = SigningString.contributes other := by
  funext name
  unfold SigningString.contributes
  rw [sameNames.hasField]

theorem lower_method_inj
    (same : requestTarget request = requestTarget other) :
    Text.lower request.method.text = Text.lower other.method.text ∧
      decodedTarget request = decodedTarget other := by
  have unspaced (method : Method) : (Text.lower method.text).toList.count ' ' = 0 := by
    apply List.count_eq_zero.2
    intro member
    have inside := Text.mem_of_mem_lower member (by decide)
    have valid := method.valid
    rw [Bool.and_eq_true, List.all_eq_true] at valid
    exact absurd (valid.2 ' ' inside) (by decide)
  have parts (request : Request) : (requestTarget request).toList =
      (Text.lower request.method.text).toList ++ ' ' :: (decodedTarget request).toList := by
    simp [requestTarget, decodedTarget, String.toList_append]
  have chars := congrArg String.toList same
  rw [parts, parts] at chars
  obtain ⟨methods, targets⟩ :=
    Text.append_cons_inj ((unspaced request.method).trans (unspaced other.method).symm) chars
  exact ⟨String.toList_injective methods, String.toList_injective targets⟩

variable (time : Instant) (lifetime : Duration)

theorem toList_compose (request : Request) (names : List HeaderName) (nonce : Option String) :
    (compose request names time lifetime nonce).toList =
      ['\n'].intercalate
        ((names.filter (contributes request)).map (fun name =>
            (headerLine request time lifetime name).toList) ++
          (nonceLines nonce).map String.toList) := by
  rw [compose, lines_eq, String.toList_intercalate, List.map_append, List.map_map]
  rfl

/-- Of requests with the same names, those that are signed alike have as many line feeds in their
targets if these are listed. -/
theorem mul_count_of_compose_eq (sameNames : SameNames request other)
    (same : compose request names time lifetime nonce = compose other names time lifetime nonce) :
    names.countP (· == .requestTarget) * (requestTarget request).toList.count '\n' =
      names.countP (· == .requestTarget) * (requestTarget other).toList.count '\n' := by
  have counted := congrArg (fun text => text.toList.count '\n') same
  have sum := sum_count_headerLines time lifetime request names
  have sumOther := sum_count_headerLines time lifetime other names
  rw [List.map_map] at sum sumOther
  simp only [toList_compose, Text.count_intercalate, List.length_append, List.length_map,
    List.map_append, List.map_map, List.sum_append, sameNames.contributes] at counted sum
  simp only [Function.comp_def] at counted sum sumOther
  omega

theorem said_eq_of_compose_eq (sameNames : SameNames request other)
    (same : compose request names time lifetime nonce = compose other names time lifetime nonce)
    {name : HeaderName} (listed : name ∈ names) (carried : contributes request name = true) :
    said request time lifetime name = said other time lifetime name := by
  have counted : ∀ name ∈ names.filter (contributes request),
      (headerLine request time lifetime name).toList.count '\n' =
        (headerLine other time lifetime name).toList.count '\n' := by
    intro name member
    obtain ⟨listed, carried⟩ := List.mem_filter.1 member
    rw [count_headerLine time lifetime carried,
      count_headerLine time lifetime (sameNames.contributes ▸ carried)]
    by_cases target : (name == .requestTarget) = true
    · have positive : 0 < names.countP (· == .requestTarget) :=
        List.countP_pos_iff.2 ⟨name, listed, target⟩
      rw [if_pos target, if_pos target]
      exact Nat.eq_of_mul_eq_mul_left positive (mul_count_of_compose_eq time lifetime sameNames same)
    · rw [if_neg target, if_neg target]
  -- Lines at the same place have as many line feeds, so the texts are cut at the same places.
  have chars := congrArg String.toList same
  rw [toList_compose, toList_compose, ← sameNames.contributes] at chars
  have lines := Text.map_eq_of_intercalate_eq _ counted chars name
    (List.mem_filter.2 ⟨listed, carried⟩)
  simp only [headerLine, String.toList_append] at lines
  exact String.toList_injective (List.append_cancel_left lines)

theorem said_of_hasField (carried : request.hasField name.text = true) :
    said request time lifetime name =
      if name == .date then (request.firstFieldText? "date").getD ""
      else ", ".intercalate (foldedTexts request name) := by
  have plain (special : HeaderName) (pseudo : special.isPseudo = true) :
      ¬(name == special) = true := by
    intro same
    have key := HeaderName.isPseudo_congr ((HeaderName.beq_iff name special).1 same)
    rw [hasField_of_isPseudo request (key.trans pseudo)] at carried
    exact absurd carried (by decide)
  rw [said, if_neg (plain .requestTarget (by decide)), if_neg (plain .created (by decide)),
    if_neg (plain .expires (by decide))]

theorem foldedTexts_of_not_hasField (missing : request.hasField name.text = false) :
    foldedTexts request name = [] := by
  rw [Request.hasField_eq, Bool.not_eq_false', List.isEmpty_iff] at missing
  rw [foldedTexts, missing]
  rfl

/-- Two requests agree on all that is listed: on the method in lower case and the decoded target if
the request target is, on the folded values of each header, and on the first date. -/
structure SignedAlike (request other : Request) (names : List HeaderName) : Prop where
  target : HeaderName.requestTarget.Occurs names →
    Text.lower request.method.text = Text.lower other.method.text ∧
      decodedTarget request = decodedTarget other
  values : ∀ name ∈ names, (name == .date) = false →
    ", ".intercalate (foldedTexts request name) = ", ".intercalate (foldedTexts other name)
  date : HeaderName.date.Occurs names →
    request.firstFieldText? "date" = other.firstFieldText? "date"

section
variable {time lifetime}
variable (sameNames : SameNames request other)
  (same : compose request names time lifetime nonce = compose other names time lifetime nonce)
include sameNames same

theorem target_of_compose_eq (occurs : HeaderName.requestTarget.Occurs names) :
    Text.lower request.method.text = Text.lower other.method.text ∧
      decodedTarget request = decodedTarget other := by
  obtain ⟨name, listed, key⟩ := occurs
  have target : (name == .requestTarget) = true := (HeaderName.beq_iff name _).2 key
  have alike := said_eq_of_compose_eq time lifetime sameNames same listed
    (by simp [contributes, target])
  rw [said, if_pos target, said, if_pos target] at alike
  exact lower_method_inj alike

theorem said_header_of_compose_eq {name : HeaderName} (listed : name ∈ names)
    (carried : request.hasField name.text = true) :
    (if name == .date then (request.firstFieldText? "date").getD ""
      else ", ".intercalate (foldedTexts request name)) =
      if name == .date then (other.firstFieldText? "date").getD ""
      else ", ".intercalate (foldedTexts other name) := by
  have alike := said_eq_of_compose_eq time lifetime sameNames same listed
    (by simp [contributes, carried])
  have carriedOther := (sameNames.hasField name.text).symm.trans carried
  rwa [said_of_hasField time lifetime carried, said_of_hasField time lifetime carriedOther] at alike

theorem values_of_compose_eq {name : HeaderName} (listed : name ∈ names)
    (undated : (name == .date) = false) :
    ", ".intercalate (foldedTexts request name) = ", ".intercalate (foldedTexts other name) := by
  cases carried : request.hasField name.text with
  | false =>
    have carriedOther := (sameNames.hasField name.text).symm.trans carried
    rw [foldedTexts_of_not_hasField carried, foldedTexts_of_not_hasField carriedOther]
  | true =>
    have alike := said_header_of_compose_eq sameNames same listed carried
    rwa [undated, if_neg (by decide), if_neg (by decide)] at alike

theorem date_of_compose_eq (occurs : HeaderName.date.Occurs names) :
    request.firstFieldText? "date" = other.firstFieldText? "date" := by
  obtain ⟨name, listed, key⟩ := occurs
  have dated : (name == .date) = true := (HeaderName.beq_iff name _).2 key
  have first := hasField_of_date request dated
  have firstOther := (sameNames.hasField name.text).trans (hasField_of_date other dated)
  -- Without a date in one of the requests there is none in the other; else the texts are signed.
  cases here : request.firstFieldText? "date" with
  | none =>
    rw [here] at first
    exact (Option.not_isSome_iff_eq_none.1 (by simp [← firstOther, first])).symm
  | some value =>
    rw [here] at first
    obtain ⟨again, there⟩ := Option.isSome_iff_exists.1 (firstOther.symm.trans first)
    have alike := said_header_of_compose_eq sameNames same listed first
    rw [dated, if_pos rfl, if_pos rfl, here, there] at alike
    exact (congrArg some alike).trans there.symm

theorem signedAlike_of_compose_eq : SignedAlike request other names where
  target := target_of_compose_eq sameNames same
  values := fun _ => values_of_compose_eq sameNames same
  date := date_of_compose_eq sameNames same

end

theorem compose_eq_of_signedAlike (sameNames : SameNames request other)
    (alike : SignedAlike request other names) (nonce : Option String) :
    compose request names time lifetime nonce = compose other names time lifetime nonce := by
  have lines : (names.filter (contributes request)).map (headerLine request time lifetime) =
      (names.filter (contributes request)).map (headerLine other time lifetime) := by
    apply List.map_congr_left
    intro name member
    have listed := (List.mem_filter.1 member).1
    unfold headerLine said
    by_cases target : (name == .requestTarget) = true
    · obtain ⟨method, path⟩ := alike.target ⟨name, listed, (HeaderName.beq_iff name _).1 target⟩
      unfold decodedTarget at path
      rw [if_pos target, if_pos target, requestTarget, requestTarget, method, path]
    · by_cases date : (name == .date) = true
      · rw [alike.date ⟨name, listed, (HeaderName.beq_iff name _).1 date⟩]
        simp [target, date]
      · rw [alike.values name listed (by simpa using date)]
        simp [target, date]
  rw [compose, compose, lines_eq, lines_eq, ← sameNames.contributes, lines]

/-- Requests with headers of the same names are signed alike, under whatever list, times and nonce,
exactly if they agree on all that is listed. -/
theorem compose_eq_iff_signedAlike (request other : Request) (names : List HeaderName)
    (time : Instant) (lifetime : Duration) (nonce : Option String)
    (sameNames : SameNames request other) :
    compose request names time lifetime nonce = compose other names time lifetime nonce ↔
      SignedAlike request other names :=
  ⟨signedAlike_of_compose_eq sameNames,
    fun alike => compose_eq_of_signedAlike time lifetime sameNames alike nonce⟩

def noted (path note : String) (plain : (Bytes.ofText note).all isFieldOctet = true) : Request where
  method := .get
  target := .origin path
  fields := ⟨[(⟨"x-note", by decide +kernel⟩, ⟨Bytes.ofText note, plain⟩)]⟩
  body := none

theorem noted_alike :
    let request := noted "/a%0Ax-note:%20b" "one  two" (by decide +kernel)
    let other := noted "/%61%0ax-note:%20b" "one two" (by decide +kernel)
    let elsewhere := noted "/a%0Ax-note:%20c" "one  two" (by decide +kernel)
    let names := [.requestTarget, ⟨"X-Note"⟩, .requestTarget]
    request ≠ other ∧ SameNames request other ∧
      compose request names .epoch .zero (some "n") = compose other names .epoch .zero (some "n") ∧
        SignedAlike request other names ∧
      SameNames request elsewhere ∧ ¬SignedAlike request elsewhere names ∧
        compose request names .epoch .zero (some "n") ≠
          compose elsewhere names .epoch .zero (some "n") := by
  intro request other elsewhere names
  have sameNames : SameNames request other := fun _ => rfl
  have sameNamesElsewhere : SameNames request elsewhere := fun _ => rfl
  have same : compose request names .epoch .zero (some "n") =
      compose other names .epoch .zero (some "n") := by decide +kernel
  have apart : ¬SignedAlike request elsewhere names := by
    intro alike
    obtain ⟨-, targets⟩ := alike.target ⟨.requestTarget, by simp [names], rfl⟩
    exact absurd targets (by decide +kernel)
  have signedAlike := compose_eq_iff_signedAlike request other names .epoch .zero (some "n") sameNames
  refine ⟨?_, sameNames, same, signedAlike.1 same, sameNamesElsewhere, apart, ?_⟩
  · intro equal
    exact absurd (congrArg Request.target equal) (by decide)
  · intro signed
    exact apart ((compose_eq_iff_signedAlike request elsewhere names .epoch .zero (some "n")
      sameNamesElsewhere).1 signed)

end SignedRequest.SigningString
