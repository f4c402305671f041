import SignedRequest.Http.Request
import SignedRequest.Signing.Settings

/-!
Code of the sender that runs before and after a request is signed. The first hook may change the
request and the settings, and may call the second one off.
-/

namespace SignedRequest

/-- Looks at a signed request, its signature and the settings used; may give a reason to fail. -/
abbrev SignedHook := Request → Signature → SigningSettings → Option String

/-- What the first hook leaves behind, whether or not it fails. -/
structure Preparation where
  request : Request
  settings : SigningSettings
  onSigned : Option SignedHook
  failure : Option String

structure SigningHooks where
  onSigning : Request → SigningSettings → Preparation

namespace SigningHooks

def idle : SigningHooks where
  onSigning := fun request settings =>
    { request, settings, onSigned := some fun _ _ _ => none, failure := none }

end SigningHooks

inductive HookCall where
  | signing (request : Request) (settings : SigningSettings)
  | signed (request : Request) (signature : Signature) (settings : SigningSettings)

end SignedRequest
