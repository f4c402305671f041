import SignedRequest.Proofs.Authorization.Tokens
import SignedRequest.Proofs.SigningString
import SignedRequest.Proofs.Text.Lines

/-!
The lines of the text that is signed. Cutting the text at its line feeds gives a line for each name
that contributes, in order, and a last one for the nonce, unless the request target has line feeds
of its own: each of these adds a line for every time that the target is listed, and nothing else
does.
-/

namespace SignedRequest.SigningString

/-- The values of a header as they are signed: white space folded, and empty ones left out. -/
def foldedTexts (request : Request) (name : HeaderName) : List String :=
  ((request.fieldTexts name.text).map Text.fold).filter fun value => !value.isEmpty

/-- A name has a line if it is one of the three that are computed, or that of a header of the
request. -/
def contributes (request : Request) (name : HeaderName) : Bool :=
  name == .requestTarget || name == .created || name == .expires || request.hasField name.text

/-- What the line of a name says of it. -/
def said (request : Request) (time : Instant) (lifetime : Duration) (name : HeaderName) : String :=
  if name == .requestTarget then requestTarget request
  else if name == .created then toString time.unixSeconds
  else if name == .expires then toString (expiresSeconds time lifetime)
  else if name == .date then (request.firstFieldText? "date").getD ""
  else ", ".intercalate (foldedTexts request name)

def headerLine (request : Request) (time : Instant) (lifetime : Duration) (name : HeaderName) :
    String :=
  name.lower ++ ": " ++ said request time lifetime name

def nonceLines (nonce : Option String) : List String :=
  (nonce.filter fun text => !text.isEmpty).toList.map fun text => "nonce: " ++ Text.trim text

theorem toList_nonceLine? (nonce : Option String) :
    (nonceLine? nonce).toList = nonceLines nonce := by
  cases nonce with
  | none => rfl
  | some text =>
    by_cases empty : text = ""
    · simp [nonceLine?, nonceLines, empty]
    · simp [nonceLine?_some empty, nonceLines, Option.filter_some, empty]

variable (request : Request) (time : Instant) (lifetime : Duration)

theorem line_ofValues (name : HeaderName) :
    (Header.ofValues name ((request.fieldTexts name.text).map Text.fold)).line =
      name.lower ++ ": " ++ ", ".intercalate (foldedTexts request name) := by
  have trimmed : Text.trim ∘ Text.fold = Text.fold := funext Text.trim_fold
  rw [Header.line, Header.ofValues, List.map_map, trimmed, foldedTexts]

theorem hasField_of_date {name : HeaderName} (date : (name == .date) = true) :
    request.hasField name.text = (request.firstFieldText? "date").isSome := by
  rw [request.hasField_congr ((HeaderName.beq_iff name .date).1 date), request.hasField_eq,
    Request.firstFieldText?, HeaderName.date]
  cases request.fieldTexts "date" <;> rfl

theorem line?_eq (name : HeaderName) :
    line? request time lifetime name =
      if contributes request name then some (headerLine request time lifetime name) else none := by
  unfold line? contributes headerLine said
  by_cases target : (name == .requestTarget) = true
  · simp [target]
  · by_cases created : (name == .created) = true
    · simp [target, created]
    · by_cases expires : (name == .expires) = true
      · simp [target, created, expires]
      · by_cases date : (name == .date) = true
        · simp only [target, created, expires, date, hasField_of_date request date]
          cases request.firstFieldText? "date" <;> simp
        · simp [target, created, expires, date, line_ofValues]

theorem lines_eq (names : List HeaderName) (nonce : Option String) :
    lines request names time lifetime nonce =
      (names.filter (contributes request)).map (headerLine request time lifetime) ++
        nonceLines nonce := by
  have listed : names.filterMap (line? request time lifetime) =
      (names.filter (contributes request)).map (headerLine request time lifetime) := by
    induction names with
    | nil => rfl
    | cons name rest ih =>
      rw [List.filterMap_cons, line?_eq, ih]
      cases carried : contributes request name <;> simp [carried]
  rw [lines, listed, toList_nonceLine?]

def isNameChar (c : Char) : Bool := isTokenChar c || c == '(' || c == ')'

variable {request} {name : HeaderName}

theorem ascii_of_contributes (carried : contributes request name = true) :
    Text.IsAscii name.text ∧ ∀ c ∈ name.key.toList, isNameChar c = true := by
  have known (special : HeaderName) (same : (name == special) = true)
      (plain : special ∈ HeaderName.special)
      (chars : ∀ c ∈ special.key.toList, isNameChar c = true) :
      Text.IsAscii name.text ∧ ∀ c ∈ name.key.toList, isNameChar c = true := by
    have key := (HeaderName.beq_iff name special).1 same
    exact ⟨HeaderName.isAscii_of_key (HeaderName.plain_special special plain).ascii key,
      key ▸ chars⟩
  simp only [contributes, Bool.or_eq_true] at carried
  rcases carried with ((target | created) | expires) | header
  · exact known _ target (by simp [HeaderName.special]) (Text.forall_mem_of_all (by decide +kernel))
  · exact known _ created (by simp [HeaderName.special]) (Text.forall_mem_of_all (by decide +kernel))
  · exact known _ expires (by simp [HeaderName.special]) (Text.forall_mem_of_all (by decide +kernel))
  · refine ⟨request.isAscii_of_hasField header, fun c member => ?_⟩
    rw [HeaderName.key, Text.toList_asciiLower] at member
    obtain ⟨d, inside, rfl⟩ := List.mem_map.1 member
    simp [isNameChar, request.isTokenChar_of_hasField header d inside]

theorem lower_of_contributes (carried : contributes request name = true) :
    name.lower = name.key :=
  HeaderName.lower_eq_key (ascii_of_contributes carried).1

theorem not_mem_lower (sign : Char) (other : isNameChar sign = false)
    (carried : contributes request name = true) : sign ∉ name.lower.toList := by
  rw [lower_of_contributes carried]
  intro member
  have named := (ascii_of_contributes carried).2 sign member
  simp [other] at named

theorem lineFeed_not_mem_digits (n : Nat) : '\n' ∉ (toString n).toList := fun member =>
  absurd (Authorization.isDigit_of_mem_toString member) (by decide)

theorem lineFeed_not_mem_values (request : Request) (name : HeaderName) :
    '\n' ∉ (", ".intercalate (foldedTexts request name)).toList := by
  rw [String.toList_intercalate]
  intro member
  rcases Text.mem_intercalate member with between | ⟨_, listed, inside⟩
  · exact absurd between (by decide)
  · obtain ⟨_, value, rfl⟩ := List.mem_map.1 listed
    obtain ⟨text, _, rfl⟩ := List.mem_map.1 (List.mem_filter.1 value).1
    exact absurd (Text.eq_space_of_mem_fold inside (by decide)) (by decide)

/-- Of all that is said of names, the request target alone can have line feeds. -/
theorem count_said (request : Request) (name : HeaderName) :
    (said request time lifetime name).toList.count '\n' =
      if name == .requestTarget then (requestTarget request).toList.count '\n' else 0 := by
  unfold said
  split
  · rfl
  · split
    · exact List.count_eq_zero.2 (lineFeed_not_mem_digits _)
    · split
      · exact List.count_eq_zero.2 (lineFeed_not_mem_digits _)
      · split
        · apply List.count_eq_zero.2
          cases dated : request.firstFieldText? "date" with
          | none => simp
          | some value => exact request.lineFeed_not_mem dated
        · exact List.count_eq_zero.2 (lineFeed_not_mem_values request name)

theorem count_headerLine (carried : contributes request name = true) :
    (headerLine request time lifetime name).toList.count '\n' =
      if name == .requestTarget then (requestTarget request).toList.count '\n' else 0 := by
  have before : ": ".toList.count '\n' = 0 := by decide
  have named := List.count_eq_zero.2 (not_mem_lower '\n' (by decide) carried)
  rw [headerLine, String.toList_append, String.toList_append, List.count_append,
    List.count_append, named, before, count_said, Nat.zero_add]

theorem sum_count_headerLines (request : Request) (names : List HeaderName) :
    (((names.filter (contributes request)).map (headerLine request time lifetime)).map
        fun line => line.toList.count '\n').sum =
      names.countP (· == .requestTarget) * (requestTarget request).toList.count '\n' := by
  induction names with
  | nil => simp
  | cons name rest ih =>
    rw [List.filter_cons, List.countP_cons]
    by_cases carried : contributes request name = true
    · rw [if_pos carried, List.map_cons, List.map_cons, List.sum_cons, ih,
        count_headerLine time lifetime carried]
      split
      · rw [Nat.add_mul, Nat.one_mul, Nat.add_comm]
      · simp
    · have other : (name == .requestTarget) = false := by
        simp only [contributes, Bool.or_eq_true, not_or] at carried
        simpa using carried.1.1.1
      rw [if_neg carried, ih, other]
      simp

theorem countP_eq_zero_iff (names : List HeaderName) :
    names.countP (· == .requestTarget) = 0 ↔ ¬HeaderName.requestTarget.Occurs names := by
  rw [List.countP_eq_zero]
  simp only [HeaderName.beq_iff, HeaderName.Occurs, not_exists, not_and]

variable {names : List HeaderName} {nonce : Option String}

theorem sum_count_nonceLines (unbroken : ∀ text, nonce = some text → '\n' ∉ text.toList) :
    ((nonceLines nonce).map fun line => line.toList.count '\n').sum = 0 := by
  cases nonce with
  | none => rfl
  | some text =>
    by_cases empty : text = ""
    · simp [nonceLines, Option.filter_some, empty]
    · have trimmed : (Text.trim text).toList.count '\n' = 0 :=
        List.count_eq_zero.2 fun member => unbroken text rfl (Text.mem_of_mem_trim member)
      simp [nonceLines, Option.filter_some, empty, String.toList_append, trimmed]

theorem sum_count_lines (request : Request) (names : List HeaderName)
    (unbroken : ∀ text, nonce = some text → '\n' ∉ text.toList) :
    ((lines request names time lifetime nonce).map fun line => line.toList.count '\n').sum =
      names.countP (· == .requestTarget) * (requestTarget request).toList.count '\n' := by
  rw [lines_eq, List.map_append, List.sum_append, sum_count_headerLines,
    sum_count_nonceLines unbroken, Nat.add_zero]

theorem ne_empty_of_mem_lines {line : String}
    (member : line ∈ lines request names time lifetime nonce) : line ≠ "" := by
  rw [lines_eq, List.mem_append] at member
  rcases member with header | last
  · obtain ⟨name, -, rfl⟩ := List.mem_map.1 header
    simp [headerLine]
  · obtain ⟨text, -, rfl⟩ := List.mem_map.1 last
    simp

theorem compose_eq_empty_iff (request : Request) (names : List HeaderName) (nonce : Option String) :
    compose request names time lifetime nonce = "" ↔
      lines request names time lifetime nonce = [] := by
  constructor
  · intro empty
    refine List.eq_nil_iff_forall_not_mem.2 fun line member => ?_
    have inside := Text.infix_intercalate "\n".toList (List.mem_map_of_mem (f := String.toList) member)
    rw [← String.toList_intercalate, ← compose, empty] at inside
    exact ne_empty_of_mem_lines time lifetime member (by simpa using inside)
  · intro none
    rw [compose, none, String.intercalate_nil]

theorem compose_ne_empty (lifetime : Duration) (nonce : Option String) (listed : name ∈ names)
    (carried : contributes request name = true) :
    compose request names time lifetime nonce ≠ "" := by
  rw [ne_eq, compose_eq_empty_iff, lines_eq]
  exact List.append_ne_nil_of_left_ne_nil
    (List.ne_nil_of_mem (List.mem_map_of_mem (List.mem_filter.2 ⟨listed, carried⟩))) _

theorem length_pieces_compose (unbroken : ∀ text, nonce = some text → '\n' ∉ text.toList)
    (some : lines request names time lifetime nonce ≠ []) :
    (Text.pieces "\n" (compose request names time lifetime nonce)).length =
      (lines request names time lifetime nonce).length +
        names.countP (· == .requestTarget) * (requestTarget request).toList.count '\n' := by
  have counted := Text.length_pieces_intercalate '\n' some
  rw [sum_count_lines time lifetime request names unbroken] at counted
  exact counted

theorem pieces_compose (unbroken : ∀ text, nonce = some text → '\n' ∉ text.toList)
    (some : lines request names time lifetime nonce ≠ [])
    (whole : HeaderName.requestTarget.Occurs names → '\n' ∉ (requestTarget request).toList) :
    Text.pieces "\n" (compose request names time lifetime nonce) =
      lines request names time lifetime nonce := by
  have counted := sum_count_lines time lifetime request names unbroken
  -- Neither a target that is not listed nor one without a line feed adds any.
  have none : names.countP (· == .requestTarget) * (requestTarget request).toList.count '\n' = 0 := by
    by_cases listed : HeaderName.requestTarget.Occurs names
    · rw [List.count_eq_zero.2 (whole listed), Nat.mul_zero]
    · rw [(countP_eq_zero_iff names).2 listed, Nat.zero_mul]
  rw [none, List.sum_eq_zero_iff_forall_eq_nat] at counted
  refine Text.pieces_intercalate '\n' some fun line member => ?_
  exact List.count_eq_zero.1 (counted _ (List.mem_map_of_mem member))

/-- Cutting the signed text at its line feeds gives one line for each name that contributes, in
order, with the name in lower case in front, and then the nonce, exactly if a listed request target
has no line feed. Each line feed that it has adds a line every time it is listed, and no value of a
header, no time and no nonce adds one. -/
theorem pieces_compose_iff (request : Request) (names : List HeaderName) (time : Instant)
    (lifetime : Duration) (nonce : Option String)
    (unbroken : ∀ text, nonce = some text → '\n' ∉ text.toList)
    (contributed : (∃ name ∈ names, contributes request name = true) ∨
      ∃ text, nonce = some text ∧ text ≠ "") :
    (Text.pieces "\n" (compose request names time lifetime nonce)).length =
        (names.filter (contributes request)).length + (nonceLines nonce).length +
          names.countP (· == .requestTarget) * (requestTarget request).toList.count '\n' ∧
      (Text.pieces "\n" (compose request names time lifetime nonce) =
          (names.filter (contributes request)).map (headerLine request time lifetime) ++
            nonceLines nonce ↔
        (HeaderName.requestTarget.Occurs names → '\n' ∉ (requestTarget request).toList)) := by
  have some : lines request names time lifetime nonce ≠ [] := by
    rw [lines_eq]
    rcases contributed with ⟨name, member, carried⟩ | ⟨text, rfl, filled⟩
    · exact List.append_ne_nil_of_left_ne_nil
        (List.ne_nil_of_mem (List.mem_map_of_mem (List.mem_filter.2 ⟨member, carried⟩))) _
    · simp [nonceLines, Option.filter_some, filled]
  have length := length_pieces_compose time lifetime unbroken some
  rw [← lines_eq]
  refine ⟨by simpa [lines_eq] using length, ?_⟩
  constructor
  · intro same listed
    rw [same, Nat.left_eq_add, Nat.mul_eq_zero, countP_eq_zero_iff, List.count_eq_zero] at length
    exact length.resolve_left (not_not_intro listed)
  · exact pieces_compose time lifetime unbroken some

def broken : Request := .ofMethodAndTarget .get (.absolute "http" "example.test" "/a%0Adate:%20x")

theorem pieces_broken :
    let names : List HeaderName := [.requestTarget, ⟨"date"⟩, .requestTarget]
    let text := compose broken names .epoch .zero (some "n")
    (∀ nonce, some "n" = some nonce → '\n' ∉ nonce.toList) ∧
      (∃ name ∈ names, contributes broken name = true) ∧ (Text.pieces "\n" text).length = 5 ∧
        Text.pieces "\n" text ≠ (names.filter (contributes broken)).map
          (headerLine broken .epoch .zero) ++ nonceLines (some "n") := by
  intro names text
  have unbroken : ∀ nonce, some "n" = some nonce → '\n' ∉ nonce.toList := by
    intro nonce same
    cases same
    decide
  have contributed : ∃ name ∈ names, contributes broken name = true :=
    ⟨.requestTarget, by simp [names], by decide⟩
  obtain ⟨length, whole⟩ := pieces_compose_iff broken names .epoch .zero (some "n") unbroken
    (.inl contributed)
  refine ⟨unbroken, contributed, length.trans (by decide +kernel), fun same => ?_⟩
  exact whole.1 same ⟨.requestTarget, by simp [names], rfl⟩ (by decide +kernel)

end SignedRequest.SigningString
