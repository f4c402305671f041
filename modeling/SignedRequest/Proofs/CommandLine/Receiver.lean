import Mathlib.Data.List.Nodup
import SignedRequest.CommandLine.Run
import SignedRequest.Proofs.Configuration.Client
import SignedRequest.Proofs.Outcome
import SignedRequest.Proofs.Verification.ClientStore

/-!
The receiver that verification sets up. It knows the clients of its configuration if each can be made
and no two have one identifier, it remembers none before its first request, and its report tells a
success from a failure.
-/

namespace SignedRequest
open Outcome

theorem VerificationConfiguration.exists_toClients {registry : AlgorithmRegistry}
    (configuration : VerificationConfiguration) (sound : ∀ client ∈ configuration.clients,
      ∃ made, client.toClient registry = .ok made) :
    ∃ clients, configuration.toClients registry = .ok clients ∧
      clients.map Client.keyId = configuration.clients.map ClientConfiguration.keyId ∧
      (∀ client ∈ clients, client.keyId.isUnset = false) ∧
      ∀ client ∈ configuration.clients, ∀ made, client.toClient registry = .ok made →
        made ∈ clients := by
  unfold toClients
  generalize configuration.clients = configured at sound ⊢
  induction configured with
  | nil => exact ⟨[], rfl, by simp⟩
  | cons first rest ih =>
    obtain ⟨⟨made, here⟩, others⟩ := List.forall_mem_cons.1 sound
    obtain ⟨clients, later, same, set, found⟩ := ih others
    obtain ⟨keyId, named⟩ := (ClientConfiguration.parts_of_toClient here).1
    refine ⟨made :: clients, ?_, by rw [List.map_cons, keyId, same, List.map_cons],
      List.forall_mem_cons.2 ⟨named, set⟩, List.forall_mem_cons.2 ⟨fun again told => ?_, ?_⟩⟩
    · rw [List.mapM_cons, here, later]
      rfl
    · obtain rfl := Except.ok.inj (here.symm.trans told)
      exact List.mem_cons_self
    · exact fun client member made told => List.mem_cons_of_mem _ (found client member made told)

namespace ClientTable

theorem exists_foldlM_insert (table : ClientTable) {clients : List Client}
    (set : ∀ client ∈ clients, client.keyId.isUnset = false)
    (distinct : (clients.map Client.keyId).Nodup)
    (new : ∀ client ∈ clients, table.clients.get? client.keyId = none) :
    ∃ full, clients.foldlM insert table = .ok full ∧
      (∀ client ∈ clients, full.clients.get? client.keyId = some client) ∧
      ∀ keyId ∉ clients.map Client.keyId, full.clients.get? keyId = table.clients.get? keyId := by
  induction clients generalizing table with
  | nil => exact ⟨table, rfl, by simp⟩
  | cons first rest ih =>
    obtain ⟨named, others⟩ := List.forall_mem_cons.1 set
    obtain ⟨missing, later⟩ := List.forall_mem_cons.1 new
    obtain ⟨alone, distinct⟩ := List.nodup_cons.1 distinct
    have apart {client : Client} (member : client ∈ rest) : first.keyId ≠ client.keyId :=
      fun same => alone (same ▸ List.mem_map_of_mem member)
    obtain ⟨full, added, found, kept⟩ := ih ⟨table.clients.put first.keyId first⟩ others distinct
      fun client member => by rw [Table.get?_put, if_neg (apart member), later client member]
    refine ⟨full, ?_, List.forall_mem_cons.2 ⟨?_, found⟩, fun keyId outside => ?_⟩
    · rw [List.foldlM_cons, (insert_eq_ok_iff _ _ _).2 ⟨named, missing, rfl⟩]
      exact added
    · rw [kept _ alone, Table.get?_put, if_pos rfl]
    · rw [List.map_cons, List.mem_cons, not_or] at outside
      rw [kept keyId outside.2, Table.get?_put, if_neg (Ne.symm outside.1)]

theorem exists_ofClients {clients : List Client}
    (set : ∀ client ∈ clients, client.keyId.isUnset = false)
    (distinct : (clients.map Client.keyId).Nodup) :
    ∃ table, ofClients clients = .ok table ∧
      ∀ client ∈ clients, table.get client.keyId = .ok client := by
  obtain ⟨table, added, found, -⟩ := exists_foldlM_insert empty set distinct fun _ _ => rfl
  exact ⟨table, added, fun client member =>
    (get_eq_ok_iff _ _ _).2 ⟨set client member, found client member⟩⟩

end ClientTable

namespace CommandLine

/-- A receiver can be set up: its clients can be made, and each has an identifier of its own. -/
structure Ready (configuration : VerificationConfiguration) : Prop where
  sound : ∀ client ∈ configuration.clients, ∃ made, client.toClient .standard = .ok made
  distinct : (configuration.clients.map ClientConfiguration.keyId).Nodup

def receiver (configuration : VerificationConfiguration) :
    RequestVerifier (ClientTable × ClientCache) NonceTable where
  clients := ClientStore.inMemory.cached configuration.cacheLifetime
  nonces := .inMemory
  options := configuration.options

theorem get_receiver (configuration : VerificationConfiguration) (now : Instant) (keyId : KeyId)
    (table : ClientTable) :
    ((receiver configuration).clients.get (some now) keyId (table, .empty)).1 =
      table.get keyId := by
  simp only [receiver, ClientStore.cached, ClientStore.inMemory]
  split
  · rfl
  · cases table.get keyId <;> rfl

theorem registers_receiver (configuration : VerificationConfiguration) (nonce : Nonce)
    (now : Instant) :
    ((receiver configuration).nonces.registerIfUnused nonce now .empty).1 = .ok true := rfl

/-- The report begins with the line that tells of a valid signature. -/
def ReportsValid (result : Except Failure (List String)) : Prop :=
  ∃ claims, result = .ok ("✅ Signature is valid! (^///^)" :: claims)

theorem reportsValid_iff (outcome : VerificationOutcome) :
    ReportsValid (.ok (report outcome)) ↔ ∃ client signature, outcome = .success client signature := by
  cases outcome with
  | success client signature => exact ⟨fun _ => ⟨_, _, rfl⟩, fun _ => ⟨_, rfl⟩⟩
  | failure error client signature =>
    constructor
    · rintro ⟨claims, same⟩
      have first := (List.cons.inj (Except.ok.inj same)).1
      exact absurd first (by decide)
    · rintro ⟨_, _, same⟩
      cases same

theorem exists_table {surroundings : Surroundings} {path : String}
    {configuration : VerificationConfiguration}
    (configured : loadConfiguration surroundings VerificationConfiguration.ofValue? path =
      .ok configuration) (ready : Ready configuration) :
    ∃ table : ClientTable,
      (∀ client ∈ configuration.clients, ∀ made, client.toClient .standard = .ok made →
        table.get client.keyId = .ok made) ∧
      ∀ options, ReportsValid (runVerify surroundings path options) ↔
        ∃ request client signature, buildRequest surroundings options = .ok request ∧
          ((receiver configuration).verify surroundings.now request (table, .empty) .empty).1 =
            .ok (.success client signature) := by
  obtain ⟨clients, made, same, set, found⟩ := configuration.exists_toClients ready.sound
  obtain ⟨table, full, get⟩ := ClientTable.exists_ofClients set (same ▸ ready.distinct)
  refine ⟨table, fun client member client' told => ?_, fun options => ?_⟩
  · rw [← (ClientConfiguration.parts_of_toClient told).1.1]
    exact get client' (found client member client' told)
  · simp only [ReportsValid, runVerify, bind_eq_ok_iff, mapError_eq_ok_iff]
    constructor
    · rintro ⟨claims, again, read, _, madeAgain, _, fullAgain, request, built, outcome, verified,
        reported⟩
      obtain rfl := Except.ok.inj (configured.symm.trans read)
      obtain rfl := Except.ok.inj (made.symm.trans madeAgain)
      obtain rfl := Except.ok.inj (full.symm.trans fullAgain)
      obtain ⟨client, signature, rfl⟩ := (reportsValid_iff outcome).1 ⟨claims, reported⟩
      exact ⟨request, client, signature, built, verified⟩
    · rintro ⟨request, client, signature, built, verified⟩
      obtain ⟨claims, reported⟩ := (reportsValid_iff _).2 ⟨client, signature, rfl⟩
      exact ⟨claims, configuration, configured, clients, made, table, full, request, built, _,
        verified, reported⟩

end CommandLine
end SignedRequest
