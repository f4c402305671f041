import SignedRequest.Proofs.Signing.HeaderList
import SignedRequest.Proofs.SigningString.Lines
import SignedRequest.Proofs.Verification.Covered

/-!
Which of the listed names a signature authenticates. Any name in parentheses passes for present, but
a line is computed for three of them only. The others that an accepted request lists are left out of
the text that was verified, and whoever passes the request on may put more of them into the list.
-/

namespace SignedRequest

namespace HeaderName

/-- A name in parentheses that no line is computed for. -/
def isUnknown (name : HeaderName) : Bool :=
  name.isPseudo && !(name == .requestTarget || name == .created || name == .expires)

theorem isUnknown_congr {name other : HeaderName} (same : name.key = other.key) :
    name.isUnknown = other.isUnknown := by
  have matching (special : HeaderName) : (name == special) = (other == special) := by
    rw [Bool.eq_iff_iff, beq_iff, beq_iff, same]
  simp only [isUnknown, isPseudo_congr same, matching]

theorem isPseudo_of_isUnknown {name : HeaderName} (unknown : name.isUnknown = true) :
    name.isPseudo = true :=
  (Bool.and_eq_true_iff.1 unknown).1

/-- A list has the names of another, and besides only names that no line is computed for. -/
structure Pads (names more : List HeaderName) : Prop where
  kept : ∀ name ∈ names, name ∈ more
  known : (more.filter fun name => !name.isUnknown) = names.filter fun name => !name.isUnknown

variable {names more : List HeaderName} {name : HeaderName}

theorem Pads.mem_of_known (pads : Pads names more) (member : name ∈ more)
    (known : name.isUnknown = false) : name ∈ names := by
  have found : name ∈ more.filter fun name => !name.isUnknown :=
    List.mem_filter.2 ⟨member, by simp [known]⟩
  rw [pads.known] at found
  exact (List.mem_filter.1 found).1

theorem Pads.occurs (pads : Pads names more) (found : name.Occurs names) : name.Occurs more := by
  obtain ⟨other, member, same⟩ := found
  exact ⟨other, pads.kept other member, same⟩

theorem Pads.occurs_iff_of_known (pads : Pads names more) (known : name.isUnknown = false) :
    name.Occurs more ↔ name.Occurs names := by
  constructor
  · intro found
    obtain ⟨other, member, same⟩ := found
    exact ⟨other, pads.mem_of_known member ((isUnknown_congr same).trans known), same⟩
  · exact pads.occurs

end HeaderName

namespace SigningString

variable {request : Request} {name : HeaderName}

theorem contributes_of_present
    (present : name.isPseudo = true ∨ request.hasField name.text = true) :
    contributes request name = !name.isUnknown := by
  cases pseudo : name.isPseudo with
  | true =>
    have missing := hasField_of_isPseudo request pseudo
    simp [contributes, HeaderName.isUnknown, pseudo, missing]
  | false =>
    have carried := present.resolve_left (by simp [pseudo])
    simp [contributes, HeaderName.isUnknown, pseudo, carried]

theorem not_contributes_of_isUnknown (request : Request) (unknown : name.isUnknown = true) :
    contributes request name = false := by
  rw [contributes_of_present (.inl (HeaderName.isPseudo_of_isUnknown unknown)), unknown]
  rfl

theorem compose_known (request : Request) (names : List HeaderName) (time : Instant)
    (lifetime : Duration) (nonce : Option String) :
    compose request (names.filter fun name => !name.isUnknown) time lifetime nonce =
      compose request names time lifetime nonce := by
  have same : ((names.filter fun name => !name.isUnknown).filter (contributes request)) =
      names.filter (contributes request) := by
    rw [List.filter_filter]
    apply List.filter_congr
    intro name _
    cases unknown : name.isUnknown with
    | true => simp [not_contributes_of_isUnknown request unknown]
    | false => simp
  rw [compose, compose, lines_eq, lines_eq, same]

end SigningString

open HeaderName (Pads)

theorem Signature.CoversAlike.of_pads {signature : Signature} {request other : Request}
    (covered : signature.CoversAlike request other) {names : List HeaderName}
    (pads : Pads signature.headers names) :
    ({ signature with headers := names } : Signature).CoversAlike request other where
  method := covered.method
  target := covered.target
  values := by
    intro name member
    cases unknown : name.isUnknown with
    | false => exact covered.values name (pads.mem_of_known member unknown)
    | true =>
      have pseudo := HeaderName.isPseudo_of_isUnknown unknown
      rw [SigningString.fieldTexts_of_isPseudo request pseudo,
        SigningString.fieldTexts_of_isPseudo other pseudo]
  body := fun listed => covered.body ((pads.occurs_iff_of_known (by decide +kernel)).1 listed)

namespace Evidence

variable {evidence : Evidence} {requirement : HeaderRequirement}

theorem Admissible.contributes (admissible : evidence.Admissible requirement) {name : HeaderName}
    (listed : name ∈ evidence.signature.headers) :
    SigningString.contributes evidence.request name = !name.isUnknown := by
  apply SigningString.contributes_of_present
  by_cases pseudo : name.isPseudo = true
  · exact .inl pseudo
  · rw [HeaderName.isPseudo_iff] at pseudo
    exact .inr ((evidence.request.hasField_iff _).2 (admissible.present name listed pseudo))

theorem Admissible.of_pads (admissible : evidence.Admissible requirement)
    {names : List HeaderName} (pads : Pads evidence.signature.headers names) :
    { evidence with
      signature := { evidence.signature with headers := names } }.Admissible requirement where
  family := admissible.family
  algorithm := admissible.algorithm
  createdAllowed := fun listed =>
    admissible.createdAllowed ((pads.occurs_iff_of_known (by decide +kernel)).1 listed)
  expiresAllowed := fun listed =>
    admissible.expiresAllowed ((pads.occurs_iff_of_known (by decide +kernel)).1 listed)
  target := (pads.occurs_iff_of_known (by decide +kernel)).2 admissible.target
  required := fun name required => pads.occurs (admissible.required name required)
  present := by
    intro name listed header
    -- A name without parentheses cannot have been put there.
    have known : name.isUnknown = false := by
      rw [← Bool.not_eq_true]
      intro unknown
      exact header ((HeaderName.isPseudo_iff name).1 (HeaderName.isPseudo_of_isUnknown unknown))
    exact admissible.present name (pads.mem_of_known listed known) header
  digest := fun listed =>
    admissible.digest ((pads.occurs_iff_of_known (by decide +kernel)).1 listed)
  signed := by
    obtain ⟨created, expires, octets, begun, lasting, early, late, decoded, verified⟩ :=
      admissible.signed
    refine ⟨created, expires, octets, begun, lasting, early, late, decoded, ?_⟩
    rwa [← SigningString.compose_known, pads.known, SigningString.compose_known]

end Evidence

namespace RequestVerifier

variable {σ ν : Type} (verifier : RequestVerifier σ ν) {request again : Request} {clients : σ}
  {nonces : ν} {client : Client} {signature : Signature}

theorem verify_of_pads {reading : Option Instant} {names : List HeaderName}
    (success : (verifier.verify reading request clients nonces).1 =
      .ok (.success client signature))
    (pads : Pads signature.headers names)
    (received : received? verifier.options again = some { signature with headers := names })
    (covered : signature.CoversAlike request again) :
    (verifier.verify reading again clients nonces).1 =
      .ok (.success client { signature with headers := names }) := by
  rw [verify_success_iff_judged, judge_success_iff] at success
  obtain ⟨identified, now, read, -, ⟨requirement, admissible⟩, fresh⟩ := success
  have repeated : verifier.Identified reading again clients { signature with headers := names }
      client :=
    { received
      valid := identified.valid
      known := identified.known }
  rw [verify_success_iff_judged, ← verifier.judge_covered (covered.of_pads pads),
    judge_success_iff]
  exact ⟨repeated, now, read, ⟨rfl, rfl⟩, ⟨requirement, admissible.of_pads pads⟩, fresh⟩

/-- A name that an accepted request lists has a line in the text that was verified, unless it is in
parentheses and no line is computed for it: the text is that of the list without these names.
Everyone can put more of them into the list of an accepted request, and in its place that request is
accepted as well. -/
theorem verify_listed_lines {reading : Option Instant}
    (success : (verifier.verify reading request clients nonces).1 =
      .ok (.success client signature)) :
    (∃ created expires octets,
      signature.created = some created ∧ signature.expires = some expires ∧
      Base64.decode? signature.string = some octets ∧
      client.algorithm.verify (Bytes.ofText (SigningString.compose request signature.headers
        created (expires.since created) signature.nonce)) octets = .ok true ∧
      (∀ name ∈ signature.headers,
        (SigningString.line? request created (expires.since created) name).isSome = true ↔
          name.isUnknown = false) ∧
      SigningString.compose request (signature.headers.filter fun name => !name.isUnknown)
          created (expires.since created) signature.nonce =
        SigningString.compose request signature.headers created (expires.since created)
          signature.nonce) ∧
    ∀ names again, Pads signature.headers names →
      received? verifier.options again = some { signature with headers := names } →
      signature.CoversAlike request again →
        (verifier.verify reading again clients nonces).1 =
          .ok (.success client { signature with headers := names }) := by
  constructor
  · obtain ⟨now, read, accepted⟩ := verifier.accepted_of_verify success
    obtain ⟨requirement, admissible⟩ := accepted.admissible
    obtain ⟨created, expires, octets, begun, lasting, -, -, decoded, verified⟩ := admissible.signed
    refine ⟨created, expires, octets, begun, lasting, decoded, verified, ?_,
      SigningString.compose_known ..⟩
    intro name listed
    have contributes := admissible.contributes listed
    rw [SigningString.line?_eq, show SigningString.contributes request name = _ from contributes]
    cases name.isUnknown with
    | true => simp
    | false => simp
  · intro names again pads received covered
    exact verifier.verify_of_pads success pads received covered

end RequestVerifier

namespace Padded
open RequestVerifier

def parts (signature : Signature) : (KeyId × Option String × Option String) ×
    (Option Instant × Option Instant) × List String × String :=
  ((signature.keyId, signature.algorithm, signature.nonce), (signature.created, signature.expires),
    signature.headers.map HeaderName.text, signature.string)

theorem parts_injective : Function.Injective parts := by
  have text : Function.Injective HeaderName.text := fun ⟨_⟩ ⟨_⟩ same => congrArg _ same
  intro signature other same
  obtain ⟨keyId, algorithm, created, expires, headers, string, nonce⟩ := signature
  simp only [parts, Prod.mk.injEq, (List.map_injective_iff.2 text).eq_iff] at same
  obtain ⟨⟨rfl, rfl, rfl⟩, ⟨rfl, rfl⟩, rfl, rfl⟩ := same
  rfl

/-- A name that a receiver may take for that of something in the request. -/
def appId : HeaderName := ⟨"(x-app-id)"⟩

def request : Request :=
  { Captured.request "abc" with
    fields := ⟨((FieldValue.ofText? ("Signature keyId=\"a\",created=0,expires=300," ++
      "headers=\"(request-target) (x-app-id)\",nonce=\"abc\",signature=\"AA==\"")).map
        (Prod.mk .authorization)).toList⟩ }

def signature : Signature := { Captured.signature "abc" with headers := [.requestTarget, appId] }

theorem received : received? Captured.verifier.options request = some signature := by
  have same : (received? Captured.verifier.options request).map parts = some (parts signature) := by
    decide +kernel
  exact Option.map_injective parts_injective same

theorem covered : (Captured.signature "abc").CoversAlike (Captured.request "abc") request :=
  Captured.coversAlike rfl rfl

theorem pads : Pads (Captured.signature "abc").headers signature.headers where
  kept := by
    intro name member
    rw [List.mem_singleton.1 member]
    exact List.mem_cons_self
  known := by
    have unknown : appId.isUnknown = true := by decide +kernel
    rw [signature, List.filter_cons, List.filter_singleton, unknown]
    rfl

theorem name_left_out :
    (Captured.verifier.verify (some .epoch) request Captured.clients .empty).1 =
        .ok (.success Captured.client signature) ∧
      appId ∈ signature.headers ∧
      ∃ created expires, signature.created = some created ∧ signature.expires = some expires ∧
        (SigningString.line? request created (expires.since created) .requestTarget).isSome = true ∧
        SigningString.line? request created (expires.since created) appId = none := by
  -- The captured request is accepted, hence that with the longer list.
  obtain ⟨used, answered⟩ := Captured.answered
  have captured := Captured.verifier.verify_listed_lines (congrArg Prod.fst answered)
  have accepted := captured.2 _ request pads received covered
  obtain ⟨⟨created, expires, _, begun, lasting, -, -, listed, -⟩, -⟩ :=
    Captured.verifier.verify_listed_lines accepted
  have target := (listed .requestTarget List.mem_cons_self).2 (by decide +kernel)
  have unsigned := (listed appId (by simp [signature])).not.2 (by decide +kernel)
  exact ⟨accepted, by simp [signature], created, expires, begun, lasting, target,
    by simpa using unsigned⟩

end Padded
end SignedRequest
