import SignedRequest.Algorithm.Custom
import SignedRequest.Proofs.Verification.Checks
import SignedRequest.Verification.Verifier

/-!
When a request is accepted. The condition is told apart from the order in which it is tested: the
authorization header is read, the client is known, the checks are met, and a nonce is new.
-/

namespace SignedRequest
open Outcome

theorem Signature.validate_eq_ok_iff (signature : Signature) :
    signature.validate = .ok () ↔ signature.keyId.text ≠ "" ∧ signature.string ≠ "" := by
  unfold validate KeyId.isUnset
  by_cases unnamed : signature.keyId.text = ""
  · simp [unnamed]
  · by_cases unsigned : signature.string = ""
    · simp [unnamed, unsigned]
    · simp [unnamed, unsigned]

theorem Signature.isUnset_of_complete {signature : Signature}
    (complete : signature.validate = .ok ()) : signature.keyId.isUnset = false := by
  simpa [KeyId.isUnset] using (signature.validate_eq_ok_iff.1 complete).1

namespace RequestVerifier

variable {σ ν : Type} (verifier : RequestVerifier σ ν)

theorem received?_eq_some_iff (options : VerificationOptions) (request : Request)
    (signature : Signature) :
    received? options request = some signature ↔
      ∃ value parameters, request.firstFieldText? "authorization" = some value ∧
        Authorization.stripScheme? value options.scheme = some parameters ∧
        Authorization.parse parameters = .ok signature := by
  simp only [received?, FieldName.authorization, bind, Option.bind_eq_some_iff,
    toOption_eq_some_iff]
  constructor
  · intro found
    obtain ⟨value, carried, parameters, stripped, parsed⟩ := found
    exact ⟨value, parameters, carried, stripped, parsed⟩
  · intro found
    obtain ⟨value, parameters, carried, stripped, parsed⟩ := found
    exact ⟨value, carried, parameters, stripped, parsed⟩

/-- A signature without a nonce is fresh; a nonce has to be new to the store, until a point in time
that can be represented. -/
def Fresh (signature : Signature) (client : Client) (now : Instant) (nonces : ν) : Prop :=
  ∀ value, signature.nonce = some value →
    ∃ expiration : Instant,
      expiration.nanos =
          now.nanos + (client.nonceLifetime.getD verifier.options.nonceLifetime).nanos ∧
        (verifier.nonces.registerIfUnused ⟨client.keyId, value, expiration⟩ now nonces).1 = .ok true

/-- What it takes for a request to be accepted at a point in time. -/
structure Accepted (now : Instant) (request : Request) (clients : σ) (nonces : ν)
    (client : Client) (signature : Signature) : Prop where
  received : ∃ value parameters, request.firstFieldText? "authorization" = some value ∧
    Authorization.stripScheme? value verifier.options.scheme = some parameters ∧
    Authorization.parse parameters = .ok signature
  named : signature.keyId.text ≠ ""
  signed : signature.string ≠ ""
  known : (verifier.clients.get (some now) signature.keyId clients).1 = .ok client
  admissible : ∃ requirement,
    ({ request
       signature
       client
       policy := verifier.policy
       now
       clockSkew := client.clockSkew.getD verifier.options.clockSkew } : Evidence).Admissible
      requirement
  fresh : verifier.Fresh signature client now nonces

theorem accept_success_iff (signature : Signature) (client : Client) (now : Instant) (nonces : ν)
    (other : Client) (returned : Signature) :
    (verifier.accept signature client now nonces).1 = .ok (.success other returned) ↔
      (client = other ∧ signature = returned) ∧ verifier.Fresh signature client now nonces := by
  unfold accept nonceLifetime Fresh
  cases signature.nonce with
  | none => simp
  | some value =>
    simp only [Option.some.injEq, forall_eq', ← Instant.add?_eq_some_iff]
    cases now.add? (client.nonceLifetime.getD verifier.options.nonceLifetime) with
    | none => simp
    | some expiration =>
      simp only [Option.some.injEq, exists_eq_left']
      split
      · simp_all
      · simp_all
      · simp_all

theorem judge_success_iff (reading : Option Instant) (request : Request) (signature : Signature)
    (client : Client) (nonces : ν) (other : Client) (returned : Signature) :
    (verifier.judge reading request signature client nonces).1 = .ok (.success other returned) ↔
      ∃ now, reading = some now ∧ (client = other ∧ signature = returned) ∧
        (∃ requirement, (verifier.evidence request signature client now).Admissible requirement) ∧
        verifier.Fresh signature client now nonces := by
  unfold judge
  cases reading with
  | none => simp
  | some now =>
    simp only [Option.some.injEq, exists_eq_left', ← Evidence.check_eq_ok_iff]
    cases checked : (verifier.evidence request signature client now).check with
    | error error => simp
    | ok _ => simp [accept_success_iff]

/-- The signature of a request is judged once it is complete and its client is known. -/
structure Identified (reading : Option Instant) (request : Request) (clients : σ)
    (signature : Signature) (client : Client) : Prop where
  received : received? verifier.options request = some signature
  valid : signature.validate = .ok ()
  known : (verifier.clients.get reading signature.keyId clients).1 = .ok client

theorem verify_of_identified {reading : Option Instant} {request : Request} {clients : σ}
    {signature : Signature} {client : Client}
    (identified : verifier.Identified reading request clients signature client) (nonces : ν) :
    verifier.verify reading request clients nonces =
      ((verifier.judge reading request signature client nonces).1,
        (verifier.clients.get reading signature.keyId clients).2,
        (verifier.judge reading request signature client nonces).2) := by
  have known := identified.known
  simp only [verify, identified.received, identified.valid]
  generalize verifier.clients.get reading signature.keyId clients = answer at known
  obtain ⟨result, later⟩ := answer
  cases known
  rfl

theorem verify_unidentified (reading : Option Instant) (request : Request) (clients : σ)
    (nonces : ν) (unknown : ∀ signature client,
      ¬verifier.Identified reading request clients signature client) :
    (verifier.verify reading request clients nonces).2.2 = nonces ∧
      ((∃ cause signature, (verifier.verify reading request clients nonces).1 =
          .ok (.failure cause none signature)) ∨
        ∃ (signature : Signature) (error : Error), signature.validate = .ok () ∧
          (verifier.clients.get reading signature.keyId clients).1 = .error error ∧
          (∀ cause, error ≠ .verification cause) ∧
          (verifier.verify reading request clients nonces).1 = .error error) := by
  unfold verify
  cases received : received? verifier.options request with
  | none => simp
  | some signature =>
    cases valid : signature.validate with
    | error error => simp [valid]
    | ok _ =>
      cases asked : verifier.clients.get reading signature.keyId clients with
      | mk result later =>
        cases result with
        | ok client =>
          exact absurd ⟨received, valid, congrArg Prod.fst asked⟩ (unknown signature client)
        | error error =>
          simp only [valid, asked]
          cases error with
          | verification cause => exact ⟨rfl, .inl ⟨cause, _, rfl⟩⟩
          | _ => exact ⟨rfl, .inr ⟨signature, _, valid, congrArg Prod.fst asked, by simp, rfl⟩⟩

theorem verify_of_not_identified (reading : Option Instant) (request : Request) (clients : σ)
    (nonces : ν) (unknown : ∀ signature client,
      ¬verifier.Identified reading request clients signature client) :
    (∀ client signature, (verifier.verify reading request clients nonces).1 ≠
      .ok (.success client signature)) ∧
        (verifier.verify reading request clients nonces).2.2 = nonces := by
  obtain ⟨kept, ended⟩ := verifier.verify_unidentified reading request clients nonces unknown
  refine ⟨?_, kept⟩
  obtain ⟨cause, found, refused⟩ | ⟨found, error, -, -, -, failed⟩ := ended
  · simp [refused]
  · simp [failed]

theorem verify_success_iff_judged (reading : Option Instant) (request : Request) (clients : σ)
    (nonces : ν) (client : Client) (signature : Signature) :
    (verifier.verify reading request clients nonces).1 = .ok (.success client signature) ↔
      verifier.Identified reading request clients signature client ∧
        (verifier.judge reading request signature client nonces).1 =
          .ok (.success client signature) := by
  constructor
  · intro success
    -- A success names a client, so the lookup cannot have failed.
    by_cases known : ∃ found owner, verifier.Identified reading request clients found owner
    · obtain ⟨found, owner, identified⟩ := known
      rw [verify_of_identified verifier identified] at success
      obtain ⟨_, _, ⟨rfl, rfl⟩, _⟩ := (judge_success_iff verifier _ _ _ _ _ _ _).1 success
      exact ⟨identified, success⟩
    · have refused := verify_of_not_identified verifier reading request clients nonces
        fun found owner identified => known ⟨found, owner, identified⟩
      exact absurd success (refused.1 client signature)
  · intro found
    obtain ⟨identified, judged⟩ := found
    rw [verify_of_identified verifier identified]
    exact judged

theorem verify_of_accepted {now : Instant} {request : Request} {clients : σ} {nonces : ν}
    {client : Client} {signature : Signature}
    (accepted : verifier.Accepted now request clients nonces client signature) :
    (verifier.verify (some now) request clients nonces).1 = .ok (.success client signature) := by
  have identified : verifier.Identified (some now) request clients signature client :=
    { received := (received?_eq_some_iff _ _ _).2 accepted.received
      valid := signature.validate_eq_ok_iff.2 ⟨accepted.named, accepted.signed⟩
      known := accepted.known }
  rw [verify_success_iff_judged, judge_success_iff]
  exact ⟨identified, now, rfl, ⟨rfl, rfl⟩, accepted.admissible, accepted.fresh⟩

theorem accepted_of_verify {reading : Option Instant} {request : Request} {clients : σ}
    {nonces : ν} {client : Client} {signature : Signature}
    (success : (verifier.verify reading request clients nonces).1 =
      .ok (.success client signature)) :
    ∃ now, reading = some now ∧
      verifier.Accepted now request clients nonces client signature := by
  rw [verify_success_iff_judged, judge_success_iff] at success
  obtain ⟨identified, now, rfl, _, admissible, fresh⟩ := success
  obtain ⟨named, signed⟩ := signature.validate_eq_ok_iff.1 identified.valid
  exact ⟨now, rfl,
    { received := (received?_eq_some_iff _ _ _).1 identified.received
      named, signed, known := identified.known, admissible, fresh }⟩

/-- A request is accepted, with a client and a signature, exactly if the clock has a reading and
everything that is asked at that time is met. -/
theorem verify_success_iff (reading : Option Instant) (request : Request) (clients : σ)
    (nonces : ν) (client : Client) (signature : Signature) :
    (verifier.verify reading request clients nonces).1 = .ok (.success client signature) ↔
      ∃ now, reading = some now ∧
        verifier.Accepted now request clients nonces client signature := by
  constructor
  · exact accepted_of_verify verifier
  · intro found
    obtain ⟨now, rfl, accepted⟩ := found
    exact verify_of_accepted verifier accepted

end RequestVerifier

namespace Captured
open RequestVerifier

/-- A client whose algorithm gives one signature for every text. -/
def client : Client where
  keyId := ⟨"a"⟩
  name := "Unit test app"
  algorithm := CustomAlgorithm.ofFunction "hmac" .sha256 fun _ _ => .ok [0]

def clients : ClientTable := ⟨.put .empty client.keyId client⟩

def verifier : RequestVerifier ClientTable NonceTable where
  clients := .inMemory
  nonces := .inMemory
  policy := HeaderPolicy.empty.withFamily hs2019 ⟨[], []⟩

def request (nonce : String) : Request where
  method := .get
  target := .origin "/"
  fields := ⟨((FieldValue.ofText? ("Signature keyId=\"a\",created=0,expires=300," ++
    "headers=\"(request-target)\",nonce=\"" ++ nonce ++ "\",signature=\"AA==\"")).map
      (Prod.mk .authorization)).toList⟩
  body := none

def lapse : Instant := ⟨300000000000, by decide⟩

def signature (nonce : String) : Signature where
  keyId := client.keyId
  algorithm := none
  created := some .epoch
  expires := some lapse
  headers := [.requestTarget]
  string := "AA=="
  nonce

def isSignature (nonce : String) (read : Signature) : Bool :=
  read.keyId == client.keyId && read.algorithm == none && read.created == some .epoch &&
    read.expires == some lapse && read.headers.map HeaderName.text == ["(request-target)"] &&
    read.string == "AA==" && read.nonce == some nonce

theorem eq_of_isSignature {nonce : String} {read : Signature}
    (same : isSignature nonce read = true) : read = signature nonce := by
  obtain ⟨keyId, algorithm, created, expires, headers, string, value⟩ := read
  simp only [isSignature, Bool.and_eq_true, beq_iff_eq] at same
  obtain ⟨⟨⟨⟨⟨⟨rfl, rfl⟩, rfl⟩, rfl⟩, listed⟩, rfl⟩, rfl⟩ := same
  obtain ⟨⟨text⟩, rfl, rfl⟩ := List.map_eq_singleton_iff.1 listed
  rfl

theorem received_of_isSignature {nonce : String} {request : Request}
    (found : (received? verifier.options request).any (isSignature nonce) = true) :
    received? verifier.options request = some (signature nonce) := by
  obtain ⟨read, received, same⟩ := (Option.any_eq_true _ _).1 found
  rw [received, eq_of_isSignature same]

/-- The client as one whose clock may be two minutes off, and whose nonces are kept for ten. -/
def lenient : Client :=
  { client with clockSkew := some (.ofSeconds 120), nonceLifetime := some (.ofSeconds 600) }

def lenients : ClientTable := ⟨.put .empty client.keyId lenient⟩

def deadline : Instant := ⟨420000000000, by decide⟩

def inUse : NonceTable :=
  .put .empty ⟨client.keyId, "abc", ⟨deadline.nanos + 1, by decide⟩⟩

/-- For the lenient client the captured request is accepted two minutes late, but neither later nor
while its nonce is in use. -/
theorem lenient_accepted :
    verifier.Accepted deadline (request "abc") lenients .empty lenient (signature "abc") ∧
      (verifier.verify (some deadline) (request "abc") lenients .empty).1 =
        .ok (.success lenient (signature "abc")) ∧
      (verifier.verify (some ⟨deadline.nanos + 1, by decide⟩) (request "abc") lenients .empty).1 ≠
        .ok (.success lenient (signature "abc")) ∧
      (verifier.verify (some deadline) (request "abc") lenients inUse).1 ≠
        .ok (.success lenient (signature "abc")) := by
  obtain ⟨_, passed⟩ : ∃ passed,
      (verifier.evidence (request "abc") (signature "abc") lenient deadline).check = .ok passed :=
    Outcome.exists_eq_ok (by decide +kernel)
  have accepted : verifier.Accepted deadline (request "abc") lenients .empty lenient
      (signature "abc") :=
    { received := (received?_eq_some_iff _ _ _).1 (received_of_isSignature (by decide +kernel))
      named := by decide
      signed := by decide
      known := rfl
      admissible := (Evidence.check_eq_ok_iff _).1 passed
      fresh := fun value told => ⟨⟨1020000000000, by decide⟩, rfl, rfl⟩ }
  refine ⟨accepted, (verifier.verify_success_iff _ _ _ _ _ _).2 ⟨_, rfl, accepted⟩, ?_, ?_⟩
  · intro success
    obtain ⟨now, read, late⟩ := (verifier.verify_success_iff _ _ _ _ _ _).1 success
    obtain ⟨_, admissible⟩ := late.admissible
    obtain ⟨_, _, _, _, ended, _, lasting, _⟩ := admissible.signed
    cases read
    cases ended
    exact absurd lasting (by decide)
  · intro success
    obtain ⟨now, read, repeated⟩ := (verifier.verify_success_iff _ _ _ _ _ _).1 success
    obtain ⟨_, _, unused⟩ := repeated.fresh "abc" rfl
    cases read
    have live : inUse.isLive lenient.keyId "abc" deadline = true := by decide +kernel
    simp [verifier, NonceStore.inMemory, live] at unused

end Captured
end SignedRequest
