import SignedRequest.Algorithm.Basic
import SignedRequest.Time

/-!
What a receiver knows of a sender.
-/

namespace SignedRequest

structure Claim where
  name : String
  value : String
  deriving DecidableEq

structure Client where
  keyId : KeyId
  name : String
  algorithm : SignatureAlgorithm
  /-- How long its nonces are remembered, if not as long as those of others. -/
  nonceLifetime : Option Duration := none
  /-- How far its clock may be off, if not as far as those of others. -/
  clockSkew : Option Duration := none
  claims : List Claim := []

def Client.allClaims (client : Client) : List Claim :=
  ⟨"appid", client.keyId.text⟩ :: ⟨"name", client.name⟩ :: client.claims

end SignedRequest
