import SignedRequest.Proofs.SigningString.NonceLine
import SignedRequest.Proofs.Verification.Replay

/-!
A captured signature whose nonce is taken off. As the line of a nonce may be told by a header or by
the request target, a request that was accepted with a nonce is accepted again without one, whatever
nonces have been used; for other requests the texts that are signed differ.
-/

namespace SignedRequest.RequestVerifier
open SigningString

variable {σ ν : Type} (verifier : RequestVerifier σ ν)

/-- Another request has the signature without its nonce, which it tells in another way. -/
structure Strips (request again : Request) (signature : Signature) (others : List HeaderName) :
    Prop where
  received : received? verifier.options again =
    some { signature with headers := others, nonce := none }
  retells : ∀ value, signature.nonce = some value →
    Retells request value again signature.headers others
  body : again.body = request.body

variable {verifier} {request again : Request} {signature : Signature} {others : List HeaderName}

theorem Strips.admissible (strips : verifier.Strips request again signature others)
    {value : String} (told : signature.nonce = some value) (nonempty : value ≠ "")
    {client : Client} {first second : Instant} {requirement : HeaderRequirement}
    (admissible : (verifier.evidence request signature client first).Admissible requirement)
    (timely : verifier.Timely signature client second) :
    (verifier.evidence again { signature with headers := others, nonce := none } client
      second).Admissible requirement := by
  have retells := strips.retells value told
  have mono {name : HeaderName} (occurs : name.Occurs signature.headers) : name.Occurs others := by
    obtain ⟨found, member, key⟩ := occurs
    exact ⟨found, retells.mem_others member, key⟩
  exact
    { admissible with
      createdAllowed := fun listed =>
        admissible.createdAllowed (retells.occurs (by decide) listed)
      expiresAllowed := fun listed =>
        admissible.expiresAllowed (retells.occurs (by decide) listed)
      target := mono admissible.target
      required := fun name member => mono (admissible.required name member)
      present := by
        intro name listed header
        change again.fieldTexts name.text ≠ []
        -- The one name that is new in the list is that of a header which the request has.
        rcases retells.mem_or_nonce listed with before | ⟨rfl, carried⟩
        · rw [retells.values name before]
          exact admissible.present name before header
        · exact (again.hasField_iff "nonce").1 carried
      digest := by
        intro listed
        have values := retells.fieldTexts_of_occurs (by decide) listed
        obtain ⟨found, carried, digested⟩ :=
          admissible.digest (retells.occurs (by decide) listed)
        refine ⟨found, (congrArg List.head? values).trans carried, ?_⟩
        change matchesDigest found (again.body.getD []) = true
        rw [strips.body]
        exact digested
      signed := by
        obtain ⟨created, expires, octets, begun, lasting, _, _, decoded, verified⟩ :=
          admissible.signed
        refine ⟨created, expires, octets, begun, lasting, timely.created created begun,
          timely.expires expires lasting, decoded, ?_⟩
        have same := compose_eq_of_retells created (expires.since created) nonempty retells
        rw [← told] at same
        change client.algorithm.verify (Bytes.ofText
          (compose again others created (expires.since created) none)) octets = .ok true
        rw [same]
        exact verified }

theorem judge_nonces (reading : Option Instant) (request : Request) {signature : Signature}
    (silent : signature.nonce = none) (client : Client) (nonces : ν) :
    (verifier.judge reading request signature client nonces).2 = nonces := by
  unfold judge accept
  rw [silent]
  cases reading with
  | none => rfl
  | some now =>
    dsimp only
    split
    · rfl
    · rfl

theorem Strips.verify (strips : verifier.Strips request again signature others)
    {value : String} (told : signature.nonce = some value) {client : Client}
    {first second : Instant} {clients later : σ} {nonces : ν}
    (accepted : verifier.Accepted first request clients nonces client signature)
    (known : (verifier.clients.get (some second) signature.keyId later).1 = .ok client)
    (timely : verifier.Timely signature client second) (used : ν) :
    (verifier.verify (some second) again later used).1 =
        .ok (.success client { signature with headers := others, nonce := none }) ∧
      (verifier.verify (some second) again later used).2.2 = used := by
  obtain ⟨requirement, admissible⟩ := accepted.admissible
  have nonempty := (nonce_of_received? accepted.received? told).1
  have success : (verifier.verify (some second) again later used).1 =
      .ok (.success client { signature with headers := others, nonce := none }) :=
    verifier.verify_of_accepted
      { received := (received?_eq_some_iff _ _ _).1 strips.received
        named := accepted.named
        signed := accepted.signed
        known
        admissible := ⟨requirement, strips.admissible told nonempty admissible timely⟩
        fresh := nofun }
  refine ⟨success, ?_⟩
  obtain ⟨identified, _⟩ := (verifier.verify_success_iff_judged _ _ _ _ _ _).1 success
  rw [verifier.verify_of_identified identified]
  exact judge_nonces _ _ rfl client used

variable (verifier)

/-- A text that is signed with a nonce is signed without one by no request but those that can tell a
nonce in a header that is listed, or behind a line feed of a listed target. These do sign it: as
long as the times of a signature are met, a request that was accepted with a nonce is accepted again
in this way, whatever nonces have been used. -/
theorem nonce_removed :
    (∀ (request other : Request) (names others : List HeaderName) (time again : Instant)
      (lifetime lasting : Duration) (nonce : String), nonce ≠ "" →
        compose request names time lifetime (some nonce) =
          compose other others again lasting none → CanTellNonce other others) ∧
    (∀ (request again : Request) (names others : List HeaderName) (nonce : String), nonce ≠ "" →
      Retells request nonce again names others → ∀ (time : Instant) (lifetime : Duration),
        compose again others time lifetime none =
          compose request names time lifetime (some nonce)) ∧
    ∀ (request again : Request) (first second : Instant) (client : Client) (signature : Signature)
      (value : String) (others : List HeaderName) (clients later : σ) (nonces used : ν),
        (verifier.verify (some first) request clients nonces).1 =
          .ok (.success client signature) →
        signature.nonce = some value → verifier.Strips request again signature others →
        (verifier.clients.get (some second) signature.keyId later).1 = .ok client →
        verifier.Timely signature client second →
          (verifier.verify (some second) again later used).1 =
              .ok (.success client { signature with headers := others, nonce := none }) ∧
            (verifier.verify (some second) again later used).2.2 = used := by
  refine ⟨?_, ?_, ?_⟩
  · intro request other names others time again lifetime lasting nonce nonempty same
    exact canTellNonce_of_compose_eq time lifetime nonempty same
  · intro request again names others nonce nonempty retells time lifetime
    exact compose_eq_of_retells time lifetime nonempty retells
  · intro request again first second client signature value others clients later nonces used
      success told strips known timely
    obtain ⟨_, _, accepted⟩ := verifier.accepted_of_verify success
    exact strips.verify told accepted known timely used

end SignedRequest.RequestVerifier

namespace SignedRequest.Captured
open RequestVerifier SigningString

def nameless : Signature :=
  { signature "abc" with headers := [.requestTarget, nonceName], nonce := none }

def nonced : Request :=
  { request "abc" with
    fields := ⟨((FieldValue.ofText? ("Signature keyId=\"a\",created=0,expires=300," ++
        "headers=\"(request-target) nonce\",signature=\"AA==\"")).map
          (Prod.mk .authorization)).toList ++
      [(⟨"nonce", by decide +kernel⟩, ⟨Bytes.ofText "abc", by decide +kernel⟩)]⟩ }

def isNameless (read : Signature) : Bool :=
  read.keyId == client.keyId && read.algorithm == none && read.created == some .epoch &&
    read.expires == some lapse && read.headers.map HeaderName.text == ["(request-target)", "nonce"] &&
    read.string == "AA==" && read.nonce == none

theorem eq_of_isNameless {read : Signature} (same : isNameless read = true) : read = nameless := by
  obtain ⟨keyId, algorithm, created, expires, headers, string, value⟩ := read
  simp only [isNameless, Bool.and_eq_true, beq_iff_eq] at same
  obtain ⟨⟨⟨⟨⟨⟨rfl, rfl⟩, rfl⟩, rfl⟩, listed⟩, rfl⟩, rfl⟩ := same
  have names : headers = [.requestTarget, nonceName] :=
    List.map_injective_iff.2 (fun ⟨_⟩ ⟨_⟩ => congrArg HeaderName.mk) listed
  rw [names]
  rfl

theorem strips : verifier.Strips (request "abc") nonced (signature "abc")
    [.requestTarget, nonceName] where
  received := by
    have found : (received? verifier.options nonced).any isNameless = true := by decide +kernel
    obtain ⟨read, received, same⟩ := (Option.any_eq_true _ _).1 found
    obtain rfl := eq_of_isNameless same
    exact received
  retells := by
    intro value told
    cases told
    refine .header ?_ (by decide +kernel) (by decide +kernel)
    exact
      { method := rfl
        target := rfl
        values := by
          have signed : nonced.fieldTexts "(request-target)" =
              (request "abc").fieldTexts "(request-target)" := by decide +kernel
          intro name member
          rw [List.mem_singleton.1 member]
          exact signed }
  body := rfl

theorem nonce_removed_at_once :
    ∃ used, verifier.verify (some .epoch) (request "abc") clients .empty =
        (.ok (.success client (signature "abc")), clients, used) ∧
      compose (request "abc") [.requestTarget] .epoch .zero (some "abc") =
        compose nonced [.requestTarget, nonceName] .epoch .zero none ∧
      CanTellNonce nonced [.requestTarget, nonceName] ∧
      (verifier.verify (some .epoch) nonced clients used).1 = .ok (.success client nameless) ∧
      (verifier.verify (some .epoch) nonced clients used).2.2 = used := by
  obtain ⟨used, answered⟩ := answered
  obtain ⟨apart, same, again⟩ := verifier.nonce_removed
  have text := same (request "abc") nonced [.requestTarget] [.requestTarget, nonceName] "abc"
    (by decide) (strips.retells "abc" rfl) .epoch .zero
  have tells := apart (request "abc") nonced [.requestTarget] [.requestTarget, nonceName] .epoch
    .epoch .zero .zero "abc" (by decide) text.symm
  exact ⟨used, answered, text.symm, tells, again (request "abc") nonced .epoch .epoch client
    (signature "abc") "abc" [.requestTarget, nonceName] clients clients .empty used
    (congrArg Prod.fst answered) rfl strips rfl timely⟩

end SignedRequest.Captured
