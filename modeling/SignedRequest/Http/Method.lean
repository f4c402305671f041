import SignedRequest.Http.Field

/-!
Request methods: tokens, in which case matters.
-/

namespace SignedRequest

structure Method where
  text : String
  valid : (!text.toList.isEmpty && text.toList.all isTokenChar) = true
  deriving DecidableEq

namespace Method

def ofText? (text : String) : Option Method :=
  if h : (!text.toList.isEmpty && text.toList.all isTokenChar) = true then some ⟨text, h⟩ else none

def get : Method := ⟨"GET", by decide +kernel⟩
def head : Method := ⟨"HEAD", by decide +kernel⟩

def isBodyless (method : Method) : Bool := method == get || method == head

end Method
end SignedRequest
