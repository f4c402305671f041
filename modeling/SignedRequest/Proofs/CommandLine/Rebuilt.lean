import SignedRequest.Proofs.CommandLine.Authorization
import SignedRequest.Proofs.CommandLine.Printed
import SignedRequest.Proofs.HttpDate
import SignedRequest.Proofs.Signing.Additions
import SignedRequest.Proofs.SigningString.Tampering

/-!
The request that is built with the printed lines. It has the digest of the signed request and, if no
line breaks, its authorization header; but a date that was added is cut behind its day of the week,
and the day is the first date of the request.
-/

namespace SignedRequest

namespace CommandLine
open Authorization

theorem changed_of_missing {before : Fields} {name : FieldName} (missing : before.values name = [])
    (after : Fields) :
    changed before after name = (after.values name).map fun value => (name, value.text) := by
  have all : (after.values name).filter (fun value => (before.values name).head? != some value) =
      after.values name := List.filter_eq_self.2 fun _ _ => by rw [missing]; rfl
  rw [changed, all]

theorem settled_digest (algorithm : DigestAlgorithm) (body : Bytes) :
    Settled (algorithm.headerValue body) := by
  have solid := (algorithm.chars_headerValue body).2
  have unspaced : ' ' ∉ (algorithm.headerValue body).toList :=
    fun space => absurd (solid ' ' space) (by decide)
  exact
    { unbroken := Text.not_pair_infix_of_not_mem unspaced
      single := Text.not_pair_infix_of_not_mem unspaced
      trimmed := algorithm.trim_headerValue body
      filled := fun empty => by
        have parts := congrArg String.toList empty
        simp [DigestAlgorithm.headerValue, String.toList_append] at parts }

theorem head?_settle_date {time : Instant} {text : String}
    (written : HttpDate.format? time = some text) :
    (settle text).head? = some (HttpDate.weekday time) := by
  obtain ⟨⟨rest, rfl⟩, -⟩ := HttpDate.exists_of_format? written
  have days : ∀ day ∈ HttpDate.weekdays,
      ',' ∉ day.toList ∧ Text.trim day = day ∧ day ≠ "" := by decide
  obtain ⟨single, trimmed, filled⟩ := days _ (HttpDate.weekday_mem time)
  have parts : (HttpDate.weekday time ++ ", " ++ rest).toList =
      (HttpDate.weekday time).toList ++ ',' :: ' ' :: rest.toList := by
    simp [String.toList_append]
  rw [head?_settle parts (fun found => single (found.subset (by simp))) (by rwa [trimmed]), trimmed]

theorem compose_alike {request other : Request} {names : List HeaderName}
    (method : other.method = request.method) (target : other.target = request.target)
    (carried : ∀ text, other.hasField text = request.hasField text)
    (texts : ∀ text, Text.asciiLower text ≠ "date" → Text.asciiLower text ≠ "authorization" →
      other.fieldTexts text = request.fieldTexts text)
    (date : other.firstFieldText? "date" = request.firstFieldText? "date")
    (unlisted : ¬(HeaderName.mk "authorization").Occurs names) (time : Instant)
    (lifetime : Duration) (nonce : Option String) :
    SigningString.compose other names time lifetime nonce =
      SigningString.compose request names time lifetime nonce := by
  have sameNames : SigningString.SameNames other request := by
    intro name
    rw [← Request.hasField_text, ← Request.hasField_text, carried]
  refine SigningString.compose_eq_of_signedAlike time lifetime sameNames ?_ nonce
  exact
    { target := fun _ => by
        rw [method, SigningString.decodedTarget, SigningString.decodedTarget, target]
        exact ⟨rfl, rfl⟩
      values := fun name listed undated => by
        rw [SigningString.foldedTexts, SigningString.foldedTexts, texts name.text]
        · intro day
          have same : (name == .date) = true :=
            (HeaderName.beq_iff name .date).2 (day.trans FieldName.date.asciiLower_text.symm)
          simp [same] at undated
        · exact fun carrier =>
            unlisted ⟨name, listed, carrier.trans FieldName.authorization.asciiLower_text.symm⟩
      date := fun _ => date }

/-- What a request that is built with the printed lines has in common with the signed one. -/
structure Rebuilt (names : List HeaderName) (time : Instant) (value : String)
    (request signed other : Request) : Prop where
  method : other.method = signed.method
  target : other.target = signed.target
  body : other.body = signed.body
  authorization : other.fieldTexts "authorization" = settle value
  others : ∀ text, Text.asciiLower text ≠ "date" → Text.asciiLower text ≠ "authorization" →
    other.fieldTexts text = signed.fieldTexts text
  dated : DateAdded names request →
    other.firstFieldText? "date" = some (HttpDate.weekday time)
  undated : ¬DateAdded names request →
    other.firstFieldText? "date" = signed.firstFieldText? "date"

section
variable {steps : SigningSteps} {signer : RequestSigner} {reading : Option Instant} {draws : Draws}
  {request signed other : Request} {signature : Signature}
  (lead : steps.Lead signer reading draws request signature signed)
  (undigested : request.hasField "digest" = false)
  (unauthorized : request.hasField "authorization" = false)
include lead unauthorized

theorem changed_authorization :
    changed request.fields signed.fields .authorization =
      [(.authorization, headerValue signer.settings.scheme signature)] := by
  rw [changed_of_missing (Request.values_eq_nil unauthorized), lead.values_authorization,
    List.map_singleton, FieldValue.text_of_ofText? lead.written]

include undigested

theorem sound_of_mem_addedFields (given : ∀ text ∈ request.fieldTexts "date", Given text)
    {field : FieldName × String} (member : field ∈ addedFields request.fields signed.fields) :
    FieldValue.Writable field.2 ∧
      (field = (.authorization, headerValue signer.settings.scheme signature) ∨
        ¬[':', ' '] <:+: field.2.toList) := by
  obtain ⟨name, listed, inside⟩ := List.mem_flatMap.1 member
  have added : name ∈ addedNames := by simpa using (List.mem_filter.1 listed).2
  simp only [addedNames, List.mem_cons, List.not_mem_nil, or_false] at added
  rcases added with rfl | rfl | rfl
  · rcases lead.values_date with ⟨⟨-, missing⟩, text, value, told, written, values⟩ | ⟨-, values⟩
    · rw [changed_of_missing (Request.values_eq_nil missing), values, List.map_singleton,
        FieldValue.text_of_ofText? written] at inside
      obtain rfl := List.mem_singleton.1 inside
      exact ⟨⟨value, written⟩, .inr (HttpDate.exists_of_format? told).2⟩
    · obtain ⟨value, kept, rfl⟩ := List.mem_map.1 inside
      have before := (List.mem_filter.1 kept).1
      rw [values] at before
      obtain ⟨settled, writable⟩ := given value.text
        ((request.fieldTexts_text .date).symm ▸ List.mem_map_of_mem before)
      exact ⟨writable, .inr settled.unbroken⟩
  · rw [changed_of_missing (Request.values_eq_nil undigested)] at inside
    rcases lead.values_digest undigested with none | ⟨algorithm, body, value, written, values⟩
    · simp [none] at inside
    · rw [values, List.map_singleton, FieldValue.text_of_ofText? written] at inside
      obtain rfl := List.mem_singleton.1 inside
      exact ⟨⟨value, written⟩, .inr (settled_digest algorithm body).unbroken⟩
  · rw [changed_authorization lead unauthorized] at inside
    obtain rfl := List.mem_singleton.1 inside
    exact ⟨⟨_, lead.written⟩, .inl rfl⟩

end

section
variable {request signed other : Request}
  (longer : Request.Extends request other (addedBy (addedFields request.fields signed.fields)))
include longer

theorem fieldTexts_of_missing {name : FieldName} (listed : name ∈ addedNames)
    (missing : request.hasField name.text = false) :
    other.fieldTexts name.text =
      (signed.fields.values name).flatMap fun value => settle value.text := by
  have none := Request.values_eq_nil missing
  rw [longer.fieldTexts, addedBy_addedFields _ _ name.asciiLower_text listed,
    request.fieldTexts_text, none, changed_of_missing none, List.flatMap_map]
  rfl

theorem firstFieldText?_of_kept {name : FieldName} (listed : name ∈ addedNames)
    (kept : signed.fields.values name = request.fields.values name) :
    other.firstFieldText? name.text = signed.firstFieldText? name.text := by
  rw [Request.firstFieldText?, Request.firstFieldText?, longer.fieldTexts,
    addedBy_addedFields _ _ name.asciiLower_text listed, signed.fieldTexts_text, kept,
    request.fieldTexts_text]
  cases values : request.fields.values name with
  | cons value rest => rfl
  | nil => simp [changed, kept, values]

variable {steps : SigningSteps} {signer : RequestSigner} {reading : Option Instant} {draws : Draws}
  {signature : Signature} (lead : steps.Lead signer reading draws request signature signed)
include lead

theorem fieldTexts_digest_of_extends (undigested : request.hasField "digest" = false) :
    other.fieldTexts "digest" = signed.fieldTexts "digest" := by
  refine (fieldTexts_of_missing longer (by decide : FieldName.digest ∈ addedNames)
    undigested).trans (Eq.trans ?_ (signed.fieldTexts_text .digest).symm)
  rcases lead.values_digest undigested with none | ⟨algorithm, body, value, written, values⟩
  · rw [none, List.flatMap_nil, List.map_nil]
  · simp [values, FieldValue.text_of_ofText? written, (settled_digest _ _).settle_eq]

theorem rebuilt_of_extends (undigested : request.hasField "digest" = false)
    (unauthorized : request.hasField "authorization" = false) :
    Rebuilt (steps.names signer.settings request) steps.time
      (headerValue signer.settings.scheme signature) request signed other := by
  have completed := Injection.completed_of_ensure lead.ensured
  exact
    { method := longer.method.trans (by rw [lead.left]; exact completed.method.symm)
      target := longer.target.trans (by rw [lead.left]; exact completed.target.symm)
      body := longer.body.trans (by rw [lead.left]; exact completed.body.symm)
      authorization := by
        refine (fieldTexts_of_missing longer (by decide : FieldName.authorization ∈ addedNames)
          unauthorized).trans ?_
        rw [lead.values_authorization, List.flatMap_singleton,
          FieldValue.text_of_ofText? lead.written]
      others := by
        intro text date authorization
        by_cases digest : Text.asciiLower text = FieldName.digest.text
        · have spelled : Text.asciiLower text = Text.asciiLower "digest" :=
            digest.trans FieldName.digest.asciiLower_text.symm
          rw [other.fieldTexts_congr spelled, signed.fieldTexts_congr spelled,
            fieldTexts_digest_of_extends longer lead undigested]
        · have apart : ∀ name ∈ addedNames, Text.asciiLower text ≠ name.text := by
            simp only [addedNames, List.forall_mem_cons]
            exact ⟨date, digest, authorization, by simp⟩
          rw [longer.fieldTexts, addedBy_addedFields_of_other _ _ apart, List.append_nil,
            lead.fieldTexts_other apart]
      dated := by
        intro dated
        rcases lead.values_date with ⟨⟨-, none⟩, text, value, told, written, values⟩ | ⟨other, -⟩
        · refine (congrArg List.head? (fieldTexts_of_missing longer
            (by decide : FieldName.date ∈ addedNames) none)).trans ?_
          rw [values, List.flatMap_singleton, FieldValue.text_of_ofText? written]
          exact head?_settle_date told
        · exact absurd dated other
      undated := by
        intro undated
        rcases lead.values_date with ⟨dated, -⟩ | ⟨-, values⟩
        · exact absurd dated undated
        · exact firstFieldText?_of_kept longer (by decide : FieldName.date ∈ addedNames) values }

end

end CommandLine
end SignedRequest
