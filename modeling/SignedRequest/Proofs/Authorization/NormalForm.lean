import SignedRequest.Proofs.Authorization.Language
import SignedRequest.Proofs.Authorization.RoundTrip

/-!
The normal form of a signature. What is written of a signature is read as its normal form exactly if
no quotation mark ends a text before its time, and a signature that was read is its own normal form
but for the case of its names.
-/

namespace SignedRequest.Authorization

theorem normal_eq (signature : Signature) :
    normal signature =
      { keyId := signature.keyId
        algorithm := signature.algorithm.filter fun text => !text.isEmpty
        created := signature.created.map Instant.floor
        expires := signature.expires.map Instant.floor
        headers := signature.headers.flatMap fun name => (Text.words name.lower).map HeaderName.mk
        string := signature.string
        nonce := signature.nonce.filter fun text => !text.isEmpty } := by
  have times (told : Option Instant) :
      (told.bind fun time => Instant.ofUnixSeconds? time.unixSeconds) = told.map Instant.floor := by
    simp only [Instant.ofUnixSeconds?_unixSeconds, Option.map_eq_bind, Function.comp_def]
  simp only [normal, times, headerList, Text.words_intercalate, List.flatMap_map, List.map_flatMap]

theorem Spelling.not_mem_of_value {text spelt : List Char}
    (valued : Spelling .quoted text spelt ∨ Spelling .number text spelt) : '"' ∉ text := by
  rcases valued with spelling | spelling
  · cases spelling with
    | quoted plain => exact plain
  · cases spelling with
    | number digit all =>
      intro quote
      rcases List.mem_cons.1 quote with rfl | later
      · exact absurd digit (by decide)
      · exact absurd (all _ later) (by decide)

theorem IsParameter.not_mem {pair : String × String} {cs : List Char}
    (parameter : IsParameter pair cs) : '"' ∉ pair.2.toList := by
  cases parameter with
  | intro _ _ _ _ valued _ => exact Spelling.not_mem_of_value valued

theorem IsSequence.not_mem {pairs : List (String × String)} {cs : List Char}
    (sequence : IsSequence pairs cs) {pair : String × String} (member : pair ∈ pairs) :
    '"' ∉ pair.2.toList := by
  induction sequence with
  | nil => simp at member
  | last parameter => exact List.mem_singleton.1 member ▸ parameter.not_mem
  | cons parameter _ ih =>
    rcases List.mem_cons.1 member with rfl | later
    · exact parameter.not_mem
    · exact ih later

theorem exists_reads_of_parse {input : String} {signature : Signature}
    (parsed : parse input = .ok signature) :
    ∃ pairs, IsSequence pairs input.toList ∧ Reads pairs signature := by
  obtain ⟨pairs, sequence, admissible⟩ := isSequence_of_parse parsed
  obtain ⟨found, again, reads⟩ := parse_of_isSequence sequence admissible
  obtain rfl := Except.ok.inj (parsed.symm.trans again)
  exact ⟨pairs, sequence, reads⟩

/-- A signature whose texts are kept apart when it is written: none is empty that may be left out,
and every name is one word. -/
structure Separable (signature : Signature) : Prop where
  algorithm : signature.algorithm ≠ some ""
  headers : ∀ name ∈ signature.headers,
    name.text ≠ "" ∧ ∀ c ∈ name.text.toList, Text.isBlank c = false
  nonce : signature.nonce ≠ some ""

/-- A signature as it can be read. -/
structure Canonical (signature : Signature) : Prop where
  separable : Separable signature
  created : ∀ time, signature.created = some time → time.IsWhole
  expires : ∀ time, signature.expires = some time → time.IsWhole

section
variable {pairs : List (String × String)} {name : String}

theorem TellsText.ne_empty {told : Option String} (tells : TellsText pairs name told) :
    told ≠ some "" :=
  fun empty => ((tells "").1 empty).2 rfl

theorem TellsTime.isWhole {told : Option Instant} (tells : TellsTime pairs name told) :
    ∀ time, told = some time → time.IsWhole := by
  intro time same
  obtain ⟨_, _, n, _, nanos⟩ := (tells time).1 same
  exact (Instant.isWhole_of_ofUnixSeconds? ((Instant.ofUnixSeconds?_eq_some_iff n time).2 nanos)).1

theorem TellsNames.exists_word {told : List HeaderName} (tells : TellsNames pairs name told)
    {word : HeaderName} (member : word ∈ told) :
    ∃ text, (name, text) ∈ pairs ∧ word.text ∈ Text.words text := by
  rcases tells with ⟨text, found, rfl⟩ | ⟨_, rfl⟩
  · obtain ⟨_, among, rfl⟩ := List.mem_map.1 member
    exact ⟨text, found, among⟩
  · simp at member

end

theorem Reads.canonical {pairs : List (String × String)} {signature : Signature}
    (reads : Reads pairs signature) : Canonical signature where
  separable :=
    { algorithm := reads.algorithm.ne_empty
      headers := fun _ member => by
        obtain ⟨_, _, among⟩ := reads.headers.exists_word member
        exact Text.solid_of_mem_words among
      nonce := reads.nonce.ne_empty }
  created := reads.created.isWhole
  expires := reads.expires.isWhole

theorem Reads.plain {pairs : List (String × String)} {signature : Signature}
    (reads : Reads pairs signature) (unquoted : ∀ pair ∈ pairs, '"' ∉ pair.2.toList) :
    Plain signature where
  keyId := unquoted _ reads.keyId
  algorithm := fun text told => unquoted _ ((reads.algorithm text).1 told).1
  headers := fun _ member quote => by
    obtain ⟨text, found, among⟩ := reads.headers.exists_word member
    exact unquoted _ found (Text.mem_words_iff.1 ⟨_, among, quote⟩).1
  nonce := fun text told => unquoted _ ((reads.nonce text).1 told).1
  string := unquoted _ reads.string

theorem plain_of_parse {input : String} {signature : Signature}
    (parsed : parse input = .ok signature) : Plain signature := by
  obtain ⟨pairs, sequence, reads⟩ := exists_reads_of_parse parsed
  exact reads.plain fun _ => sequence.not_mem

theorem canonical_of_parse {input : String} {signature : Signature}
    (parsed : parse input = .ok signature) : Canonical signature := by
  obtain ⟨_, _, reads⟩ := exists_reads_of_parse parsed
  exact reads.canonical

theorem mem_lower_of_quote {name : HeaderName} (quote : '"' ∈ name.text.toList) :
    '"' ∈ name.lower.toList :=
  Text.mem_lower_of_fixed quote (by decide) (by decide +kernel)

theorem plain_of_plain_normal {signature : Signature} (plain : Plain (normal signature)) :
    Plain signature := by
  have kept {carried : Option String} {text : String} (told : carried = some text)
      (quote : '"' ∈ text.toList) :
      (carried.filter fun text => !text.isEmpty) = some text := by
    refine Option.filter_eq_some_iff.2 ⟨told, ?_⟩
    rw [Bool.not_eq_true', ← Bool.not_eq_true, String.isEmpty_iff]
    rintro rfl
    simp at quote
  exact
    { keyId := plain.keyId
      algorithm := fun text told quote => plain.algorithm text (kept told quote) quote
      headers := fun name member quote => by
        obtain ⟨word, among, inside⟩ :=
          Text.mem_words_iff.2 ⟨mem_lower_of_quote quote, by decide⟩
        refine plain.headers ⟨word⟩ ?_ inside
        rw [normal_eq]
        exact List.mem_flatMap.2 ⟨name, member, List.mem_map_of_mem among⟩
      nonce := fun text told quote => plain.nonce text (kept told quote) quote
      string := plain.string }

theorem parse_render_eq_iff (signature : Signature) :
    parse (render signature) = .ok (normal signature) ↔ Plain signature :=
  ⟨fun parsed => plain_of_plain_normal (plain_of_parse parsed), parse_render_eq⟩

/-- The signature with its times in whole seconds and its names in lower case. -/
def rounded (signature : Signature) : Signature :=
  { signature with
    created := signature.created.map Instant.floor
    expires := signature.expires.map Instant.floor
    headers := signature.headers.map fun name => ⟨name.lower⟩ }

theorem Separable.normal_eq {signature : Signature} (separable : Separable signature) :
    normal signature = rounded signature := by
  have texts {carried : Option String} (filled : carried ≠ some "") :
      (carried.filter fun text => !text.isEmpty) = carried := by
    cases carried with
    | none => rfl
    | some text => simpa using filled
  have names : (signature.headers.flatMap fun name => (Text.words name.lower).map HeaderName.mk) =
      signature.headers.flatMap fun name => [⟨name.lower⟩] :=
    List.flatMap_congr fun name member => by
      obtain ⟨nonempty, solid⟩ := separable.headers name member
      rw [HeaderName.lower, Text.words_of_solid (Text.lower_ne_empty nonempty)
        (Text.solid_lower solid), List.map_singleton]
  rw [Authorization.normal_eq, texts separable.algorithm, texts separable.nonce, names,
    ← List.map_eq_flatMap, rounded]

theorem Canonical.rounded_eq {signature : Signature} (canonical : Canonical signature) :
    rounded signature =
      { signature with headers := signature.headers.map fun name => ⟨name.lower⟩ } := by
  have times {carried : Option Instant} (whole : ∀ time, carried = some time → time.IsWhole) :
      carried.map Instant.floor = carried := by
    cases carried with
    | none => rfl
    | some time => rw [Option.map_some, (whole time rfl).floor_eq]
  rw [rounded, times canonical.created, times canonical.expires]

theorem parse_render_eq_rounded_iff (signature : Signature) :
    parse (render signature) = .ok (rounded signature) ↔ Plain signature ∧ Separable signature := by
  constructor
  · intro parsed
    have plain := plain_of_parse parsed
    have separable := (canonical_of_parse parsed).separable
    have lowered {name : HeaderName} (member : name ∈ signature.headers) :
        (⟨name.lower⟩ : HeaderName) ∈ (rounded signature).headers :=
      List.mem_map_of_mem member
    refine ⟨{ plain with headers := fun name member quote => ?_ },
      { separable with headers := fun name member => ⟨?_, ?_⟩ }⟩
    · exact plain.headers _ (lowered member) (mem_lower_of_quote quote)
    · intro empty
      have filled := (separable.headers _ (lowered member)).1
      simp [HeaderName.lower, empty, Text.lower, Text.lowerAfter] at filled
    · exact Text.solid_of_solid_lower (separable.headers _ (lowered member)).2
  · rintro ⟨plain, separable⟩
    rw [parse_render_eq plain, separable.normal_eq]

/-- Reading undoes writing. What is written of a signature is read as the same key identifier and
string, the other texts unless they are empty, the whole seconds of the times and the words of the
names in lower case, exactly if no text of the signature has a quotation mark; and what was read once
is written and read again as it is, but for the case of its names. -/
theorem parse_inverts_render :
    (∀ signature : Signature,
      parse (render signature) =
          .ok
            { keyId := signature.keyId
              algorithm := signature.algorithm.filter fun text => !text.isEmpty
              created := signature.created.map Instant.floor
              expires := signature.expires.map Instant.floor
              headers :=
                signature.headers.flatMap fun name => (Text.words name.lower).map HeaderName.mk
              string := signature.string
              nonce := signature.nonce.filter fun text => !text.isEmpty } ↔
        Plain signature) ∧
    ∀ (input : String) (signature : Signature), parse input = .ok signature →
      parse (render signature) =
        .ok { signature with headers := signature.headers.map fun name => ⟨name.lower⟩ } := by
  constructor
  · intro signature
    rw [← normal_eq]
    exact parse_render_eq_iff signature
  · intro input signature parsed
    have canonical := canonical_of_parse parsed
    rw [parse_render_eq (plain_of_parse parsed), canonical.separable.normal_eq,
      canonical.rounded_eq]

end SignedRequest.Authorization
