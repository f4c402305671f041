import SignedRequest.Table
import SignedRequest.Verification.Client

/-!
Where a receiver finds its clients. A store is asked at a reading of the clock, and its state may
change with every call; the one defined here is a table that is only ever added to.
-/

namespace SignedRequest

structure ClientStore (σ : Type) where
  register : Client → σ → Except Error Unit × σ
  get : Option Instant → KeyId → σ → Except Error Client × σ

structure ClientTable where
  clients : Table KeyId Client

namespace ClientTable

def empty : ClientTable := ⟨.empty⟩

/-- Adds a client under an identifier that is set and not taken. -/
def insert (table : ClientTable) (client : Client) : Except Error ClientTable :=
  if client.keyId.isUnset then .error (.invalidArgument .keyId)
  else if table.clients.contains client.keyId then .error (.duplicateClient client.keyId)
  else .ok ⟨table.clients.put client.keyId client⟩

def get (table : ClientTable) (keyId : KeyId) : Except Error Client :=
  if keyId.isUnset then .error (.invalidArgument .keyId)
  else
    match table.clients.get? keyId with
    | some client => .ok client
    | none => .error (.verification .unknownClient)

def ofClients (clients : List Client) : Except Error ClientTable := clients.foldlM insert empty

def size (table : ClientTable) : Nat := table.clients.size

end ClientTable

def ClientStore.inMemory : ClientStore ClientTable where
  register := fun client table =>
    match table.insert client with
    | .ok table => (.ok (), table)
    | .error error => (.error error, table)
  get := fun _ keyId table => (table.get keyId, table)

end SignedRequest
