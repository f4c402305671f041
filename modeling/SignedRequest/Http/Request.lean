import SignedRequest.Http.Method
import SignedRequest.Http.Target

/-!
A request as it is signed and verified, whichever way it travels.
-/

namespace SignedRequest

structure Request where
  method : Method
  target : Target
  fields : Fields
  /-- The octets of the body, if they are at hand. -/
  body : Option Bytes

namespace Request

def ofMethodAndTarget (method : Method) (target : Target) : Request :=
  { method, target, fields := .empty, body := none }

/-- Whether the request has a line of that name; a text that is no field name has none. -/
def hasField (request : Request) (name : String) : Bool :=
  match FieldName.ofText? name with
  | some name => request.fields.contains name
  | none => false

def fieldTexts (request : Request) (name : String) : List String :=
  match FieldName.ofText? name with
  | some name => (request.fields.values name).map FieldValue.text
  | none => []

def firstFieldText? (request : Request) (name : String) : Option String :=
  (request.fieldTexts name).head?

theorem hasField_iff (request : Request) (name : String) :
    request.hasField name = true ↔ request.fieldTexts name ≠ [] := by
  unfold hasField fieldTexts
  split <;> simp [Fields.contains_iff]

def setField (request : Request) (name : FieldName) (value : FieldValue) : Request :=
  { request with fields := request.fields.set name value }

def appendField (request : Request) (name : FieldName) (value : FieldValue) : Request :=
  { request with fields := request.fields.append name value }

def removeField (request : Request) (name : FieldName) : Request :=
  { request with fields := request.fields.remove name }

end Request

/-- A request in transit, which always has a body, though it may be empty. -/
structure Message where
  method : Method
  target : Target
  fields : Fields
  body : Bytes

/-- The request of a message. An empty body counts as none where the method is one of those that
carry none. -/
def Message.toRequest (message : Message) : Request where
  method := message.method
  target := message.target
  fields := message.fields
  body := if message.body.isEmpty && message.method.isBodyless then none else some message.body

end SignedRequest
