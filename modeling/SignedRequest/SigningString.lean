import SignedRequest.Encoding.Percent
import SignedRequest.Http.Request
import SignedRequest.Signature

/-!
The text that is signed. It has one line for each listed name that the request has something to say
about, in the order of the list, and a last line for the nonce.
-/

namespace SignedRequest.SigningString

def requestTarget (request : Request) : String :=
  Text.lower request.method.text ++ " " ++
    Percent.decodeText (request.target.pathAndQuery?.getD "/")

/-- The second a signature expires in, at most the largest 64-bit number. -/
def expiresSeconds (time : Instant) (lifetime : Duration) : Nat :=
  min (time.unixSeconds + lifetime.seconds) 0xffffffffffffffff

/-- The line of a name, unless the request lacks the header. Values have their white space folded,
the date is taken as it stands. -/
def line? (request : Request) (time : Instant) (lifetime : Duration) (name : HeaderName) :
    Option String :=
  if name == .requestTarget then some (name.lower ++ ": " ++ requestTarget request)
  else if name == .created then some (name.lower ++ ": " ++ toString time.unixSeconds)
  else if name == .expires then
    some (name.lower ++ ": " ++ toString (expiresSeconds time lifetime))
  else if name == .date then
    (request.firstFieldText? "date").map fun value => name.lower ++ ": " ++ value
  else if request.hasField name.text then
    some (Header.ofValues name ((request.fieldTexts name.text).map Text.fold)).line
  else none

def nonceLine? : Option String → Option String
  | none => none
  | some nonce => if nonce.isEmpty then none else some (Header.ofValues ⟨"nonce"⟩ [nonce]).line

def lines (request : Request) (names : List HeaderName) (time : Instant) (lifetime : Duration)
    (nonce : Option String) : List String :=
  names.filterMap (line? request time lifetime) ++ (nonceLine? nonce).toList

def compose (request : Request) (names : List HeaderName) (time : Instant) (lifetime : Duration)
    (nonce : Option String) : String :=
  "\n".intercalate (lines request names time lifetime nonce)

end SignedRequest.SigningString
