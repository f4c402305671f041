import SignedRequest.Proofs.Digest
import SignedRequest.Proofs.Header
import SignedRequest.Proofs.Http.Fields
import SignedRequest.Proofs.Outcome
import SignedRequest.Signing.Injection

/-!
What a sender adds to a request before it signs. A date or a digest is added where one is listed and
missing, nothing else changes, and a digest that is added is that of the body.
-/

namespace SignedRequest

namespace Injection
open Outcome

theorem hasField_date (request : Request) :
    request.hasField "date" = request.fields.contains .date :=
  request.hasField_text .date

theorem hasField_digest (request : Request) :
    request.hasField "digest" = request.fields.contains .digest :=
  request.hasField_text .digest

theorem withDate_cases {names : List HeaderName} {time : Instant} {request result : Request}
    (made : withDate names time request = .ok result) :
    (HeaderName.date.Occurs names ∧ request.hasField "date" = false ∧
      ∃ value, (HttpDate.format? time).bind FieldValue.ofText? = some value ∧
        result = request.setField .date value) ∨
    ((HeaderName.date.Occurs names → request.hasField "date" = true) ∧ result = request) := by
  unfold withDate at made
  rw [← HeaderName.contains_iff, hasField_date]
  split at made
  · rename_i missing
    simp only [Bool.and_eq_true, Bool.not_eq_true'] at missing
    split at made
    · rename_i value written
      exact .inl ⟨missing.1, missing.2, value, written, (Except.ok.inj made).symm⟩
    · simp at made
  · rename_i there
    refine .inr ⟨fun listed => ?_, (Except.ok.inj made).symm⟩
    simpa [listed] using there

theorem withDigest_cases {names : List HeaderName} {algorithm : DigestAlgorithm}
    {request result : Request} (made : withDigest names algorithm request = .ok result) :
    (HeaderName.digest.Occurs names ∧ request.hasField "digest" = false ∧
      ∃ body value, request.body = some body ∧
        FieldValue.ofText? (algorithm.headerValue body) = some value ∧
        result = request.setField .digest value) ∨
    ((HeaderName.digest.Occurs names → request.body.isSome = true →
      request.hasField "digest" = true) ∧ result = request) := by
  unfold withDigest at made
  rw [← HeaderName.contains_iff, hasField_digest]
  cases body : request.body with
  | none =>
    rw [body] at made
    exact .inr ⟨by simp, (Except.ok.inj made).symm⟩
  | some octets =>
    simp only [body] at made
    split at made
    · rename_i missing
      simp only [Bool.and_eq_true, Bool.not_eq_true'] at missing
      split at made
      · rename_i value written
        exact .inl ⟨missing.1, missing.2, octets, value, rfl, written, (Except.ok.inj made).symm⟩
      · simp at made
    · rename_i there
      refine .inr ⟨fun listed _ => ?_, (Except.ok.inj made).symm⟩
      simpa [listed] using there

theorem withDate_of_carried {names : List HeaderName} {request : Request}
    (carried : HeaderName.date.Occurs names → request.hasField "date" = true) (time : Instant) :
    withDate names time request = .ok request := by
  unfold withDate
  rw [← HeaderName.contains_iff, hasField_date] at carried
  rw [if_neg (by simpa using carried)]

theorem withDigest_of_carried {names : List HeaderName} {request : Request}
    (carried : HeaderName.digest.Occurs names → request.body.isSome = true →
      request.hasField "digest" = true) (algorithm : DigestAlgorithm) :
    withDigest names algorithm request = .ok request := by
  unfold withDigest
  rw [← HeaderName.contains_iff, hasField_digest] at carried
  cases body : request.body with
  | none => rfl
  | some octets =>
    rw [body] at carried
    dsimp only
    rw [if_neg (by simpa using carried)]

theorem ensure_of_carried {names : List HeaderName} {request : Request}
    (date : HeaderName.date.Occurs names → request.hasField "date" = true)
    (digest : HeaderName.digest.Occurs names → request.body.isSome = true →
      request.hasField "digest" = true) (time : Instant) (algorithm : DigestAlgorithm) :
    ensure names time algorithm request = .ok request := by
  rw [ensure, withDate_of_carried date]
  exact withDigest_of_carried digest algorithm

/-- What a request has once the headers that were missing are added to it. -/
structure Completed (names : List HeaderName) (request completed : Request) : Prop where
  method : completed.method = request.method
  target : completed.target = request.target
  body : completed.body = request.body
  carried : ∀ name, request.hasField name = true → completed.hasField name = true
  dated : HeaderName.date.Occurs names → completed.hasField "date" = true
  /-- A digest that is listed is that of the body, if one that was there before is. -/
  digested : HeaderName.digest.Occurs names →
    (request.body.isSome = true ∨ request.hasField "digest" = true) →
      (∀ value, request.firstFieldText? "digest" = some value →
        matchesDigest value (request.body.getD []) = true) →
          ∃ value, completed.firstFieldText? "digest" = some value ∧
            matchesDigest value (request.body.getD []) = true

theorem carried_setField {request : Request} (name : FieldName) (value : FieldValue)
    {other : String}
    (carried : request.hasField other = true) :
    (request.setField name value).hasField other = true := by
  rw [Request.hasField_setField, carried, Bool.or_true]

theorem firstDigest_setField_date (request : Request) (value : FieldValue) :
    (request.setField .date value).firstFieldText? "digest" = request.firstFieldText? "digest" :=
  request.firstFieldText?_setField_of_ne .date value (by decide : FieldName.digest ≠ .date)

theorem firstFieldText?_of_hasField {request : Request} {name : String}
    (carried : request.hasField name = true) :
    ∃ text, request.firstFieldText? name = some text := by
  have some := (request.hasField_iff name).1 carried
  exact ⟨_, List.head?_eq_some_head some⟩

theorem completed_of_withDigest {names : List HeaderName} {algorithm : DigestAlgorithm}
    {request completed : Request} (made : withDigest names algorithm request = .ok completed)
    (dated : HeaderName.date.Occurs names → request.hasField "date" = true) :
    Completed names request completed := by
  rcases withDigest_cases made with ⟨_, _, body, value, carried, written, rfl⟩ | ⟨there, rfl⟩
  · have first : (request.setField .digest value).firstFieldText? "digest" =
        some (algorithm.headerValue body) := by
      rw [← FieldValue.text_of_ofText? written]
      exact request.firstFieldText?_setField_self .digest value
    exact
      { method := rfl
        target := rfl
        body := rfl
        carried := fun name found => carried_setField .digest value found
        dated := fun listed => carried_setField .digest value (dated listed)
        digested := fun _ _ _ => ⟨_, first, by
          rw [carried]
          exact matchesDigest_headerValue algorithm body⟩ }
  · exact
      { method := rfl
        target := rfl
        body := rfl
        carried := fun name found => found
        dated
        digested := fun listed known matching => by
          obtain ⟨text, first⟩ := firstFieldText?_of_hasField
            (known.elim (there listed) id)
          exact ⟨text, first, matching text first⟩ }

theorem completed_of_ensure {names : List HeaderName} {time : Instant}
    {algorithm : DigestAlgorithm} {request completed : Request}
    (made : ensure names time algorithm request = .ok completed) :
    Completed names request completed := by
  obtain ⟨dated, first, second⟩ := (bind_eq_ok_iff _ _ _).1 made
  rcases withDate_cases first with ⟨_, _, value, _, rfl⟩ | ⟨there, rfl⟩
  · have added : (request.setField .date value).hasField "date" = true :=
      request.hasField_setField_self .date value
    have completion := completed_of_withDigest second fun _ => added
    exact
      { method := completion.method
        target := completion.target
        body := completion.body
        carried := fun name found => completion.carried name (carried_setField .date value found)
        dated := completion.dated
        digested := fun listed known matching =>
          completion.digested listed (known.imp_right (carried_setField .date value))
            (by rwa [firstDigest_setField_date]) }
  · exact completed_of_withDigest second there

end Injection
end SignedRequest
