import SignedRequest.Proofs.SigningString.Tampering

/-!
Lines of one header may be combined on the way. The values then stand in one line, with a comma and
a space between them, and the text that is signed is the same: each value is folded on its own, as
no character and no word reaches over what is between them, and no value is left out. Nor does it
matter which white space a value has inside.
-/

namespace SignedRequest

/-- The values in one line. -/
def FieldValue.combine (values : List FieldValue) : FieldValue where
  octets := (Bytes.ofText ", ").intercalate (values.map FieldValue.octets)
  valid := by
    have between : ∀ octet ∈ Bytes.ofText ", ", isFieldOctet octet = true := by decide +kernel
    rw [List.all_eq_true]
    intro octet member
    rcases Text.mem_intercalate member with separates | ⟨octets, listed, inside⟩
    · exact between octet separates
    · obtain ⟨value, -, rfl⟩ := List.mem_map.1 listed
      exact List.all_eq_true.1 value.valid octet inside

theorem FieldValue.text_combine (values : List FieldValue) :
    (combine values).text = ", ".intercalate (values.map FieldValue.text) := by
  rw [text, combine, Text.Utf8.lossy_intercalate, List.map_map]
  rfl

def FieldValue.Trimmed (value : FieldValue) : Prop :=
  value.text ≠ "" ∧ Text.trim value.text = value.text

instance (value : FieldValue) : Decidable value.Trimmed := inferInstanceAs (Decidable (_ ∧ _))

/-- Two requests have the same method and target, and the same headers apart from the values of
one. -/
structure Request.SameBut (name : FieldName) (request other : Request) : Prop where
  method : request.method = other.method
  target : request.target = other.target
  values : ∀ header, header ≠ name → request.fields.values header = other.fields.values header

namespace SigningString

def foldedValues (values : List FieldValue) : List String :=
  ((values.map FieldValue.text).map Text.fold).filter fun value => !value.isEmpty

variable {request other : Request} {name : FieldName} {values : List FieldValue}

theorem foldedTexts_eq {listed : HeaderName} (named : FieldName.ofText? listed.text = some name)
    (carried : request.fields.values name = values) :
    foldedTexts request listed = foldedValues values := by
  unfold foldedTexts Request.fieldTexts
  rw [named, ← carried]
  rfl

theorem compose_of_sameBut (undated : name ≠ .date) (same : request.SameBut name other)
    (nonempty : request.fields.values name ≠ [])
    (nonemptyOther : other.fields.values name ≠ [])
    (alike : ", ".intercalate (foldedValues (request.fields.values name)) =
      ", ".intercalate (foldedValues (other.fields.values name)))
    (names : List HeaderName) (time : Instant) (lifetime : Duration) (nonce : Option String) :
    compose request names time lifetime nonce = compose other names time lifetime nonce := by
  have sameNames : SameNames request other := by
    intro header
    rw [Bool.eq_iff_iff, Fields.contains_iff, Fields.contains_iff]
    by_cases here : header = name
    · exact here ▸ iff_of_true nonempty nonemptyOther
    · rw [same.values header here]
  have texts {listed : String} (apart : FieldName.ofText? listed ≠ some name) :
      request.fieldTexts listed = other.fieldTexts listed := by
    unfold Request.fieldTexts
    cases named : FieldName.ofText? listed with
    | none => rfl
    | some header =>
      rw [named] at apart
      exact congrArg _ (same.values header (mt (congrArg Option.some) apart))
  refine compose_eq_of_signedAlike time lifetime sameNames ⟨fun _ => ?_, ?_, fun _ => ?_⟩ nonce
  · exact ⟨by rw [same.method], by rw [decodedTarget, decodedTarget, same.target]⟩
  · intro listed _ _
    by_cases named : FieldName.ofText? listed.text = some name
    · rw [foldedTexts_eq named rfl, foldedTexts_eq named rfl, alike]
    · rw [foldedTexts, foldedTexts, texts named]
  · have apart : FieldName.ofText? "date" ≠ some name := by
      intro named
      exact undated (Option.some.inj (named.symm.trans (FieldName.ofText?_text .date)))
    rw [Request.firstFieldText?, Request.firstFieldText?, texts apart]

theorem foldedValues_of_trimmed (trimmed : ∀ value ∈ values, value.Trimmed) :
    foldedValues values = (values.map FieldValue.text).map Text.fold := by
  refine List.filter_eq_self.2 fun text member => ?_
  rw [List.map_map] at member
  obtain ⟨value, listed, rfl⟩ := List.mem_map.1 member
  simpa using Text.fold_ne_empty (trimmed value listed).1 (trimmed value listed).2

theorem intercalate_foldedValues_singleton (value : FieldValue) :
    ", ".intercalate (foldedValues [value]) = Text.fold value.text := by
  by_cases empty : Text.fold value.text = ""
  · simp [foldedValues, empty]
  · simp [foldedValues, empty]

theorem intercalate_foldedValues_combine (trimmed : ∀ value ∈ values, value.Trimmed) :
    ", ".intercalate (foldedValues [FieldValue.combine values]) =
      ", ".intercalate (foldedValues values) := by
  have texts : ∀ text ∈ values.map FieldValue.text, text ≠ "" ∧ Text.trim text = text := by
    intro text member
    obtain ⟨value, listed, rfl⟩ := List.mem_map.1 member
    exact trimmed value listed
  rw [intercalate_foldedValues_singleton, FieldValue.text_combine, Text.fold_intercalate texts,
    foldedValues_of_trimmed trimmed]

theorem line?_of_trimmed {listed : HeaderName} (undated : name ≠ .date)
    (named : FieldName.ofText? listed.text = some name) (nonempty : values ≠ [])
    (trimmed : ∀ value ∈ values, value.Trimmed) (carried : request.fields.values name = values)
    (time : Instant) (lifetime : Duration) :
    line? request time lifetime listed =
      some (listed.lower ++ ": " ++
        ", ".intercalate ((values.map FieldValue.text).map Text.fold)) := by
  have key := (FieldName.ofText?_eq_some_iff listed.text name).1 named
  have dateless : ¬(listed == .date) = true := by
    rw [HeaderName.beq_iff]
    intro same
    exact undated (FieldName.text_inj.1 (key.symm.trans same))
  have present : request.hasField listed.text = true := by
    rw [request.hasField_iff, Request.fieldTexts, named]
    simpa [carried] using nonempty
  have contributing : contributes request listed = true := by simp [contributes, present]
  rw [line?_eq, if_pos contributing, headerLine, said_of_hasField time lifetime present,
    if_neg dateless, foldedTexts_eq named carried, foldedValues_of_trimmed trimmed]

theorem foldedValues_congr {value again : FieldValue}
    (same : Text.fold value.text = Text.fold again.text) (front back : List FieldValue) :
    foldedValues (front ++ value :: back) = foldedValues (front ++ again :: back) := by
  simp only [foldedValues, List.map_append, List.map_cons, same]

/-- Whether the values of a header other than the date stand in lines of their own or in one line
makes no difference to the text that is signed, if none of them is empty and none has white space at
its ends: where the header is listed, they are all told, each one folded. Nor does it make a
difference which white space stands at a place of a value. -/
theorem compose_combined (request other : Request) (names : List HeaderName) (time : Instant)
    (lifetime : Duration) (nonce : Option String) (name : FieldName) (undated : name ≠ .date)
    (same : request.SameBut name other) :
    (∀ values : List FieldValue, values ≠ [] → (∀ value ∈ values, value.Trimmed) →
        request.fields.values name = values → other.fields.values name = [.combine values] →
          (FieldValue.combine values).text = ", ".intercalate (values.map FieldValue.text) ∧
            (∀ listed : HeaderName, FieldName.ofText? listed.text = some name →
              line? request time lifetime listed =
                some (listed.lower ++ ": " ++
                  ", ".intercalate ((values.map FieldValue.text).map Text.fold))) ∧
            compose request names time lifetime nonce =
              compose other names time lifetime nonce) ∧
      ∀ (front back : List FieldValue) (value again : FieldValue)
        (before run instead after : String),
        run ≠ "" → Text.isAllBlank run = true → instead ≠ "" → Text.isAllBlank instead = true →
          value.text = before ++ run ++ after → again.text = before ++ instead ++ after →
            request.fields.values name = front ++ value :: back →
              other.fields.values name = front ++ again :: back →
                compose request names time lifetime nonce =
                  compose other names time lifetime nonce := by
  constructor
  · intro values nonempty trimmed separate combined
    refine ⟨FieldValue.text_combine values, fun listed named => ?_,
      compose_of_sameBut undated same ?_ ?_ ?_ names time lifetime nonce⟩
    · exact line?_of_trimmed undated named nonempty trimmed separate time lifetime
    · rwa [separate]
    · rw [combined]
      exact List.cons_ne_nil _ _
    · rw [separate, combined, intercalate_foldedValues_combine trimmed]
  · intro front back value again before run instead after nonempty white nonemptyInstead
      whiteInstead text textAgain carried carriedAgain
    have folded : Text.fold value.text = Text.fold again.text := by
      rw [text, textAgain, Text.fold_append_run nonempty white nonemptyInstead whiteInstead]
    refine compose_of_sameBut undated same ?_ ?_ ?_ names time lifetime nonce
    · rw [carried]
      exact List.append_ne_nil_of_right_ne_nil _ (List.cons_ne_nil _ _)
    · rw [carriedAgain]
      exact List.append_ne_nil_of_right_ne_nil _ (List.cons_ne_nil _ _)
    · rw [carried, carriedAgain, foldedValues_congr folded]

namespace Listing

def value (text : String) (plain : (Bytes.ofText text).all isFieldOctet = true) : FieldValue :=
  ⟨Bytes.ofText text, plain⟩

def list : FieldName := ⟨"x-list", by decide +kernel⟩

def listing (values : List FieldValue) : Request where
  method := .get
  target := .origin "/"
  fields := ⟨(.date, value "now" (by decide)) :: values.map (list, ·)⟩
  body := none

theorem sameBut (values again : List FieldValue) : (listing values).SameBut list (listing again) where
  method := rfl
  target := rfl
  values := by
    intro header apart
    have none (values : List FieldValue) : Fields.values ⟨values.map (list, ·)⟩ header = [] := by
      simp [Fields.values, List.filter_eq_nil_iff, apart.symm]
    rw [listing, listing, Fields.values_cons, Fields.values_cons, none, none]

def first : FieldValue := value "a,  b" (by decide)

def last : FieldValue := value "c\u00A0 d" (by decide)

def spaced : FieldValue := value "c\td" (by decide)

theorem compose_listing :
    let composed (values : List FieldValue) :=
      compose (listing values) [.requestTarget, ⟨"X-List"⟩, .date] .epoch .zero (some "n")
    (FieldValue.combine [first, last]).text = "a,  b, c\u00A0 d" ∧
      line? (listing [first, last]) .epoch .zero ⟨"X-List"⟩ = some "x-list: a, b, c d" ∧
        composed [first, last] = composed [.combine [first, last]] ∧
          composed [first, last] = composed [first, spaced] := by
  have alike (values again : List FieldValue) := compose_combined (listing values) (listing again)
    [.requestTarget, ⟨"X-List"⟩, .date] .epoch .zero (some "n") list (by decide)
    (sameBut values again)
  obtain ⟨text, told, combined⟩ := (alike [first, last] [.combine [first, last]]).1 [first, last]
    (by decide) (by decide +kernel) (by decide +kernel) (by decide +kernel)
  refine ⟨text.trans (by decide +kernel),
    (told ⟨"X-List"⟩ (by decide +kernel)).trans (by decide +kernel), combined, ?_⟩
  exact (alike [first, last] [first, spaced]).2 [first] [] last spaced "c" "\u00A0 " "\t" "d"
    (by decide) (by decide) (by decide) (by decide) (by decide +kernel) (by decide +kernel)
    (by decide +kernel) (by decide +kernel)

end Listing

end SigningString
end SignedRequest
