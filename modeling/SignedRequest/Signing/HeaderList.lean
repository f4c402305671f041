import SignedRequest.Http.Request
import SignedRequest.Signing.Settings

/-!
From the headers that a sender would sign to those that it does sign. Names occur once; what the
policy requires is added and what it forbids taken away; what the request has no value for is left
out, unless a value can be made up.
-/

namespace SignedRequest.HeaderList

def withTarget (names : List HeaderName) : List HeaderName :=
  if names.contains .requestTarget then names else .requestTarget :: names

def withName (names : List HeaderName) (name : HeaderName) : List HeaderName :=
  if names.contains name then names else names ++ [name]

def withRequired (required names : List HeaderName) : List HeaderName :=
  required.foldl withName names

def withoutForbidden (forbidden names : List HeaderName) : List HeaderName :=
  names.filter fun name => !forbidden.contains name

/-- A digest is signed where the settings ask for it and the method may have a body. -/
def withDigest (digest : Option DigestAlgorithm) (request : Request) (names : List HeaderName) :
    List HeaderName :=
  if digest.isSome && !request.method.isBodyless then withName names .digest else names

def isPresent (request : Request) (name : HeaderName) : Bool :=
  if name == .digest then request.body.isSome || request.hasField HeaderName.digest.text
  else name.isPseudo || name == .date || request.hasField name.text

def sanitize (settings : SigningSettings) (request : Request) (requirement : HeaderRequirement) :
    List HeaderName :=
  let names := withRequired requirement.required (withTarget (HeaderName.unique settings.headers))
  (withDigest settings.digest request (withoutForbidden requirement.forbidden names)).filter
    (isPresent request)

end SignedRequest.HeaderList
