import SignedRequest.Http.Request
import SignedRequest.Signing.Settings
import SignedRequest.Time.HttpDate

/-!
The headers that a sender adds to a request before it signs: a date and a digest of the body, each
if it is to be signed and the request has none.
-/

namespace SignedRequest.Injection

def withDate (names : List HeaderName) (time : Instant) (request : Request) :
    Except Error Request :=
  if names.contains .date && !request.fields.contains .date then
    match (HttpDate.format? time).bind FieldValue.ofText? with
    | some value => .ok (request.setField .date value)
    | none => .error .dateOutOfRange
  else .ok request

def withDigest (names : List HeaderName) (algorithm : DigestAlgorithm) (request : Request) :
    Except Error Request :=
  match request.body with
  | none => .ok request
  | some body =>
    if names.contains .digest && !request.fields.contains .digest then
      match FieldValue.ofText? (algorithm.headerValue body) with
      | some value => .ok (request.setField .digest value)
      | none => .error .invalidFieldValue
    else .ok request

def ensure (names : List HeaderName) (time : Instant) (algorithm : DigestAlgorithm)
    (request : Request) : Except Error Request := do
  withDigest names algorithm (← withDate names time request)

end SignedRequest.Injection
