import SignedRequest.Proofs.Authorization.Contents
import SignedRequest.Proofs.Authorization.Reading

/-!
The language of parameter strings. A text is accepted exactly if it is a sequence of parameters with
different names, the two that must occur among them, and times in range. What is made of it is told
by the parameters of known names, in whatever order and with whatever others they stand.
-/

namespace SignedRequest.Authorization

/-- What a sequence must say to be accepted. -/
structure Admissible (pairs : List (String × String)) : Prop where
  distinct : (pairs.map Prod.fst).Nodup
  named : ∃ text, ("keyId", text) ∈ pairs
  signed : ∃ text, ("signature", text) ∈ pairs
  timed : ∀ name text, name = "created" ∨ name = "expires" → (name, text) ∈ pairs →
    ∃ n, IsDecimal text.toList n ∧ n ≤ 9223372036854775807

/-- What the parameter of that name says; an empty text counts as none. -/
def TellsText (pairs : List (String × String)) (name : String) (told : Option String) : Prop :=
  ∀ text, told = some text ↔ (name, text) ∈ pairs ∧ text ≠ ""

/-- The point in time that the parameter of that name tells, in seconds. -/
def TellsTime (pairs : List (String × String)) (name : String) (told : Option Instant) : Prop :=
  ∀ time, told = some time ↔
    ∃ text, (name, text) ∈ pairs ∧ ∃ n : Nat, IsDecimal text.toList n ∧ time.nanos = n * 1000000000

def TellsNames (pairs : List (String × String)) (name : String) (told : List HeaderName) : Prop :=
  (∃ text, (name, text) ∈ pairs ∧ told = (Text.words text).map HeaderName.mk) ∨
    (∀ text, (name, text) ∉ pairs) ∧ told = []

/-- A signature that consists of what the parameters say. -/
structure Reads (pairs : List (String × String)) (signature : Signature) : Prop where
  keyId : ("keyId", signature.keyId.text) ∈ pairs
  algorithm : TellsText pairs "algorithm" signature.algorithm
  created : TellsTime pairs "created" signature.created
  expires : TellsTime pairs "expires" signature.expires
  headers : TellsNames pairs "headers" signature.headers
  string : ("signature", signature.string) ∈ pairs
  nonce : TellsText pairs "nonce" signature.nonce

def knownNames : List String :=
  ["keyId", "algorithm", "created", "expires", "headers", "nonce", "signature"]

/-- The parameters that have a meaning. -/
def known (pairs : List (String × String)) : List (String × String) :=
  pairs.filter fun pair => knownNames.contains pair.1

section
variable {pairs others : List (String × String)}

theorem eq_of_mem (distinct : (pairs.map Prod.fst).Nodup) {name text other : String}
    (one : (name, text) ∈ pairs) (two : (name, other) ∈ pairs) : text = other := by
  rw [← contentOf?_eq_some_iff distinct] at one two
  exact Option.some.inj (one.symm.trans two)

theorem TellsText.unique {name : String} {one two : Option String}
    (first : TellsText pairs name one) (second : TellsText pairs name two) : one = two :=
  Option.ext fun text => (first text).trans (second text).symm

theorem TellsTime.unique {name : String} {one two : Option Instant}
    (first : TellsTime pairs name one) (second : TellsTime pairs name two) : one = two :=
  Option.ext fun time => (first time).trans (second time).symm

theorem TellsNames.unique (distinct : (pairs.map Prod.fst).Nodup) {name : String}
    {one two : List HeaderName} (first : TellsNames pairs name one)
    (second : TellsNames pairs name two) : one = two := by
  rcases first with ⟨text, here, rfl⟩ | ⟨none, rfl⟩
  · rcases second with ⟨other, there, rfl⟩ | ⟨none, -⟩
    · rw [eq_of_mem distinct here there]
    · exact absurd here (none text)
  · rcases second with ⟨other, there, -⟩ | ⟨-, rfl⟩
    · exact absurd there (none other)
    · rfl

theorem Reads.unique (distinct : (pairs.map Prod.fst).Nodup) {one two : Signature}
    (first : Reads pairs one) (second : Reads pairs two) : one = two := by
  obtain ⟨⟨keyId⟩, algorithm, created, expires, headers, string, nonce⟩ := one
  obtain ⟨⟨keyId'⟩, algorithm', created', expires', headers', string', nonce'⟩ := two
  obtain rfl : keyId = keyId' := eq_of_mem distinct first.keyId second.keyId
  obtain rfl : string = string' := eq_of_mem distinct first.string second.string
  obtain rfl : algorithm = algorithm' := first.algorithm.unique second.algorithm
  obtain rfl : created = created' := first.created.unique second.created
  obtain rfl : expires = expires' := first.expires.unique second.expires
  obtain rfl : headers = headers' := first.headers.unique distinct second.headers
  obtain rfl : nonce = nonce' := first.nonce.unique second.nonce
  rfl

theorem mem_iff_of_known (same : (known others).Perm (known pairs)) {name : String}
    (listed : name ∈ knownNames) (text : String) :
    (name, text) ∈ others ↔ (name, text) ∈ pairs := by
  have among (every : List (String × String)) :
      (name, text) ∈ known every ↔ (name, text) ∈ every := by
    simp [known, listed]
  rw [← among, same.mem_iff, among]

/-- Only the known parameters count, in any order. -/
theorem Reads.of_known (same : (known others).Perm (known pairs)) {signature : Signature}
    (reads : Reads pairs signature) : Reads others signature := by
  have told {name : String} (listed : name ∈ knownNames) := mem_iff_of_known same listed
  have created := told (show "created" ∈ knownNames by decide)
  have expires := told (show "expires" ∈ knownNames by decide)
  have headers := told (show "headers" ∈ knownNames by decide)
  exact
    { keyId := (told (by decide) _).2 reads.keyId
      algorithm := fun text => by rw [told (by decide)]; exact reads.algorithm text
      created := by simpa only [TellsTime, created] using reads.created
      expires := by simpa only [TellsTime, expires] using reads.expires
      headers := by simpa only [TellsNames, headers] using reads.headers
      string := (told (by decide) _).2 reads.string
      nonce := fun text => by rw [told (by decide)]; exact reads.nonce text }

theorem Admissible.of_known (same : (known others).Perm (known pairs))
    (distinct : (others.map Prod.fst).Nodup) (admissible : Admissible pairs) :
    Admissible others := by
  have told {name : String} (listed : name ∈ knownNames) := mem_iff_of_known same listed
  refine ⟨distinct, ?_, ?_, fun name text stamp member => admissible.timed name text stamp ?_⟩
  · simpa only [told (by decide : "keyId" ∈ knownNames)] using admissible.named
  · simpa only [told (by decide : "signature" ∈ knownNames)] using admissible.signed
  · refine (told ?_ text).1 member
    rcases stamp with rfl | rfl <;> decide

theorem exists_signatureOf (stop : Nat) {parameters : List Parameter}
    (admissible : Admissible (parameters.map Parameter.pair)) :
    ∃ signature, signatureOf stop parameters = .ok signature ∧
      Reads (parameters.map Parameter.pair) signature := by
  have content (name text : String) := contentOf?_eq_some_iff admissible.distinct name text
  obtain ⟨keyId, named⟩ := admissible.named
  obtain ⟨string, signed⟩ := admissible.signed
  refine ⟨_, signatureOf_eq_ok stop ((content _ _).2 named) ((content _ _).2 signed), ?_⟩
  have texts (name : String) : TellsText (parameters.map Parameter.pair) name
      ((contentOf? (parameters.map Parameter.pair) name).filter fun text => !text.isEmpty) := by
    intro text
    rw [Option.filter_eq_some_iff, content]
    simp
  have times (name : String) : TellsTime (parameters.map Parameter.pair) name
      ((contentOf? (parameters.map Parameter.pair) name).bind fun text =>
        secondsOf? text.toList) := by
    intro time
    simp only [Option.bind_eq_some_iff, content, secondsOf?_eq_some_iff]
  exact
    { keyId := named
      algorithm := texts "algorithm"
      created := times "created"
      expires := times "expires"
      headers := by
        cases found : contentOf? (parameters.map Parameter.pair) "headers" with
        | none => exact .inr ⟨fun text member => by simp [(content _ _).2 member] at found, rfl⟩
        | some text => exact .inl ⟨text, (content _ _).1 found, rfl⟩
      string := signed
      nonce := texts "nonce" }

theorem parse_of_isSequence {input : String} (sequence : IsSequence pairs input.toList)
    (admissible : Admissible pairs) :
    ∃ signature, parse input = .ok signature ∧ Reads pairs signature := by
  obtain ⟨parameters, read, rfl⟩ :=
    parametersOf_of_isSequence sequence input.utf8ByteSize 0
  obtain ⟨signature, made, reads⟩ := exists_signatureOf input.utf8ByteSize admissible
  have checked : checkParameters [] parameters = .ok () := by
    refine (checkParameters_eq_ok_iff [] parameters).2 ⟨by simp, ?_, ?_⟩
    · simpa [Function.comp_def, Parameter.pair] using admissible.distinct
    · intro parameter member stamp
      have found : parameter.pair ∈ parameters.map Parameter.pair := List.mem_map_of_mem member
      have decimal := admissible.timed parameter.name parameter.text
        (by simpa [isTimestamp] using stamp) found
      rw [secondsOf?_isSome_iff]
      simpa [Parameter.text] using decimal
  exact ⟨signature, (parse_eq_ok_iff input signature).2 ⟨parameters, read, checked, made⟩, reads⟩

theorem mem_pair_of_find? {parameters : List Parameter} {name : String} {parameter : Parameter}
    (found : find? parameters name = some parameter) :
    (name, parameter.text) ∈ parameters.map Parameter.pair := by
  have same : parameter.name = name := by simpa using List.find?_some found
  exact List.mem_map.2
    ⟨parameter, List.mem_of_find?_eq_some found, by rw [Parameter.pair, same]⟩

theorem isSequence_of_parse {input : String} {signature : Signature}
    (parsed : parse input = .ok signature) :
    ∃ pairs, IsSequence pairs input.toList ∧ Admissible pairs := by
  obtain ⟨parameters, read, checked, made⟩ := (parse_eq_ok_iff input signature).1 parsed
  obtain ⟨-, distinct, timed⟩ := (checkParameters_eq_ok_iff [] parameters).1 checked
  unfold signatureOf at made
  split at made
  · simp at made
  · simp at made
  · rename_i keyId string named signed
    refine ⟨parameters.map Parameter.pair, isSequence_of_parametersOf read,
      { distinct := by simpa [Function.comp_def, Parameter.pair] using distinct
        named := ⟨keyId.text, mem_pair_of_find? named⟩
        signed := ⟨string.text, mem_pair_of_find? signed⟩
        timed := fun name text stamp member => ?_ }⟩
    obtain ⟨parameter, present, same⟩ := List.mem_map.1 member
    obtain ⟨rfl, rfl⟩ := Prod.mk.inj same
    have time := timed parameter present (by simpa [isTimestamp] using stamp)
    rw [secondsOf?_isSome_iff] at time
    simpa [Parameter.text] using time

/-- A text is accepted exactly if it is an admissible sequence of parameters. The signature consists
of what the parameters say, and so does that of every other sequence of different names in which the
known parameters are the same, whatever their order and whatever the others. -/
theorem parse_language (input : String) :
    ((∃ signature, parse input = .ok signature) ↔
      ∃ pairs, IsSequence pairs input.toList ∧ Admissible pairs) ∧
    ∀ pairs signature, IsSequence pairs input.toList → parse input = .ok signature →
      Reads pairs signature ∧
      ∀ other others, IsSequence others other.toList → (others.map Prod.fst).Nodup →
        (known others).Perm (known pairs) → parse other = .ok signature := by
  refine ⟨⟨fun ⟨_, parsed⟩ => isSequence_of_parse parsed, fun ⟨_, sequence, admissible⟩ => ?_⟩,
    fun pairs signature sequence parsed => ?_⟩
  · obtain ⟨signature, parsed, -⟩ := parse_of_isSequence sequence admissible
    exact ⟨signature, parsed⟩
  · obtain ⟨_, found, admissible⟩ := isSequence_of_parse parsed
    obtain rfl := found.unique sequence
    obtain ⟨_, again, reads⟩ := parse_of_isSequence sequence admissible
    obtain rfl := Except.ok.inj (parsed.symm.trans again)
    refine ⟨reads, fun other others sequence distinct same => ?_⟩
    obtain ⟨made, parsed, told⟩ :=
      parse_of_isSequence sequence (admissible.of_known same distinct)
    rw [parsed, told.unique distinct (reads.of_known same)]

end

def shuffled : String := "created = \"+5\" ,x=7,keyId=\"app\",\tsignature=\"c2ln\","

theorem parse_shuffled :
    ∃ signature, parse shuffled = .ok signature ∧
      parse "keyId=\"app\",signature=\"c2ln\",created=\"+5\"" = .ok signature := by
  have language := parse_language shuffled
  have sequence : IsSequence
      [("created", "+5"), ("x", "7"), ("keyId", "app"), ("signature", "c2ln")]
      shuffled.toList := by decide +kernel
  obtain ⟨signature, parsed⟩ := language.1.2 ⟨_, sequence,
    { distinct := by decide
      named := ⟨"app", by decide⟩
      signed := ⟨"c2ln", by decide⟩
      timed := by
        rintro name text (rfl | rfl) member
        · obtain rfl : text = "+5" := by simpa using member
          exact ⟨5, ⟨['5'], .inr rfl, by decide, Text.forall_mem_of_all (by decide), rfl⟩, by decide⟩
        · simp at member }⟩
  obtain ⟨-, others⟩ := language.2 _ signature sequence parsed
  exact ⟨signature, parsed, others _ [("keyId", "app"), ("signature", "c2ln"), ("created", "+5")]
    (by decide +kernel) (by decide) (by decide)⟩

end SignedRequest.Authorization
