import SignedRequest.Proofs.CommandLine.Printed
import SignedRequest.Proofs.Signing.Presence

/-!
What signing prints of each header. A value is compared with the first one that its header had before,
and with no other. So what signing added is told line by line; but of a header with several values
that was left as it was, those that differ from the first are told as well, and an authorization header
that takes the place of several is not told if it is the first of them.
-/

namespace SignedRequest.CommandLine
open Outcome

/-- The lines that stand for a header, of those that were printed. -/
def linesFor (name : FieldName) (printed : List String) : List String :=
  printed.filter fun line => (name.text ++ ": ").toList.isPrefixOf line.toList

/-- The lines that tell what became of a header: none if it has the values that it had, and otherwise
one for each value. -/
def dueLines (before after : Fields) (name : FieldName) : List String :=
  if after.values name = before.values name then []
  else (after.values name).map fun value => name.text ++ ": " ++ value.text

section
variable {before after : Fields} {name : FieldName}

theorem linesFor_flatMap_changedLines (before after : Fields) (name : FieldName) :
    linesFor name (after.names.flatMap (changedLines before after)) =
      changedLines before after name := by
  have chosen : (after.names.flatMap (changed before after)).filter
      (fun field => (name.text ++ ": ").toList.isPrefixOf (lineOf field).toList) =
        (after.names.filter fun other => other == name).flatMap (changed before after) := by
    refine filter_flatMap_of_parts (fun other => ?_) _
    exact filter_changed before after other fun field same => by
      rw [Bool.eq_iff_iff, isPrefixOf_lineOf_iff, same, beq_iff_eq]
  rw [flatMap_changedLines, linesFor, List.filter_map, changedLines_eq]
  refine congrArg (List.map lineOf) (chosen.trans ?_)
  exact after.flatMap_filter_names name fun missing => by simp [changed, missing]

theorem linesFor_greeting (name : FieldName) (lines : List String) :
    linesFor name ("✅ Request signed! (^///^)" :: lines) = linesFor name lines := by
  have colon : ':' ∈ (name.text ++ ": ").toList := by simp [String.toList_append]
  refine List.filter_cons_of_neg fun front => ?_
  exact absurd ((List.isPrefixOf_iff_prefix.1 front).subset colon) (by decide)

theorem changedLines_eq_dueLines_of_same (same : after.values name = before.values name) :
    changedLines before after name = dueLines before after name ↔
      ∀ value ∈ before.values name, (before.values name).head? = some value := by
  rw [dueLines, if_pos same, changedLines, List.map_eq_nil_iff, List.filter_eq_nil_iff, same]
  simp

theorem changedLines_eq_dueLines_of_new (new : before.values name = []) :
    changedLines before after name = dueLines before after name := by
  rw [dueLines, changedLines, new]
  split
  · rename_i missing
    rw [missing, List.filter_nil, List.map_nil]
  · rw [List.filter_eq_self.2 fun value _ => by simp [List.head?_nil]]

theorem changedLines_eq_dueLines_of_one {value : FieldValue} (one : after.values name = [value]) :
    changedLines before after name = dueLines before after name ↔
      ¬∃ other rest, before.values name = value :: other :: rest := by
  rw [dueLines, changedLines, one]
  generalize before.values name = values
  cases values with
  | nil => simp
  | cons first rest =>
    by_cases same : first = value
    · cases rest with
      | nil => simp [same]
      | cons second rest => simp [same]
    · simp [same, Ne.symm same]

end

section
variable {surroundings : Surroundings} {path : String} {options : RequestOptions}
  {printed : List String}

theorem exists_of_runSign (success : runSign surroundings path options = .ok printed) :
    ∃ configuration request,
      loadConfiguration surroundings SigningConfiguration.ofValue? path = .ok configuration ∧
      buildRequest surroundings options = .ok request := by
  unfold runSign at success
  obtain ⟨configuration, configured, success⟩ := (bind_eq_ok_iff _ _ _).1 success
  obtain ⟨settings, -, success⟩ := (bind_eq_ok_iff _ _ _).1 success
  obtain ⟨request, built, -⟩ := (bind_eq_ok_iff _ _ _).1 success
  exact ⟨configuration, request, configured, built⟩

/-- What is printed of a header are the values of it that are not the first one that it had. That is
what signing did to the header, except where it had other values than the first: of the
authorization header these go untold if the first one stays, and of every other header they are told
though they were there. -/
theorem linesFor_runSign (success : runSign surroundings path options = .ok printed) :
    ∃ configuration request,
      loadConfiguration surroundings SigningConfiguration.ofValue? path = .ok configuration ∧
      buildRequest surroundings options = .ok request ∧
      let before := request.fields
      let after := (RequestSigner.sign { settings := configuration.settings } surroundings.now
        surroundings.draws request).request.fields
      (∃ lines, printed = "✅ Request signed! (^///^)" :: lines ∧
        ∀ line ∈ lines, ∃ name ∈ after.names, line ∈ linesFor name printed) ∧
      ∀ name,
        linesFor name printed =
            ((after.values name).filter fun value => (before.values name).head? != some value).map
              (fun value => name.text ++ ": " ++ value.text) ∧
          (linesFor name printed = dueLines before after name ↔
            if name = .authorization then
              ¬∃ value other rest, before.values name = value :: other :: rest ∧
                after.values name = [value]
            else ∀ value ∈ before.values name, (before.values name).head? = some value) := by
  obtain ⟨configuration, request, configured, built⟩ := exists_of_runSign success
  obtain ⟨-, ⟨signature, signs⟩, rfl⟩ := (runSign_eq_ok_iff configured built printed).1 success
  obtain ⟨steps, lead⟩ := RequestSigner.exists_steps rfl signs
  refine ⟨configuration, request, configured, built, ⟨_, rfl, fun line member => ?_⟩, fun name => ?_⟩
  · obtain ⟨name, listed, inside⟩ := List.mem_flatMap.1 member
    refine ⟨name, listed, ?_⟩
    rw [linesFor_greeting, linesFor_flatMap_changedLines]
    exact inside
  · rw [linesFor_greeting, linesFor_flatMap_changedLines]
    refine ⟨rfl, ?_⟩
    split
    · rename_i authorization
      subst authorization
      rw [changedLines_eq_dueLines_of_one lead.values_authorization, lead.values_authorization]
      simp
    · rename_i other
      by_cases carried : request.fields.values name = []
      · simp [changedLines_eq_dueLines_of_new carried, carried]
      · refine changedLines_eq_dueLines_of_same ?_
        rw [lead.values_completed other, Injection.values_of_ensure lead.ensured carried]

end

namespace Several

def surroundings : Surroundings where
  file? := fun path =>
    if path = "sender" then some (.ofText "key-id='a'\nsecret='s'\nalgorithm='hmac'") else none
  now := some .epoch
  draws := ⟨[], []⟩

def options : RequestOptions := ⟨"GET", "http://a/", ["date: d", "accept: a, b"], none⟩

def accept : FieldName := ⟨"accept", by decide +kernel⟩

theorem prints : (runSign surroundings "sender" options).toOption.any
    (fun printed => linesFor accept printed == ["accept: b"]) = true := by
  decide +kernel

theorem builds : (buildRequest surroundings options).toOption.any (fun request =>
    (request.fields.values accept).any
      fun value => (request.fields.values accept).head? != some value) = true := by
  decide +kernel

/-- The second value of a header that signing leaves as it was is printed. -/
theorem linesFor_accept :
    ∃ printed configuration request, runSign surroundings "sender" options = .ok printed ∧
      loadConfiguration surroundings SigningConfiguration.ofValue? "sender" = .ok configuration ∧
      buildRequest surroundings options = .ok request ∧
      linesFor accept printed = ["accept: b"] ∧
      linesFor accept printed ≠ dueLines request.fields
        (RequestSigner.sign { settings := configuration.settings } surroundings.now
          surroundings.draws request).request.fields accept := by
  obtain ⟨printed, told, lines⟩ := (Option.any_eq_true _ _).1 prints
  obtain ⟨request, made, apart⟩ := (Option.any_eq_true _ _).1 builds
  have success := (toOption_eq_some_iff _ _).1 told
  obtain ⟨configuration, _, configured, built, -, each⟩ := linesFor_runSign success
  obtain rfl := Except.ok.inj (((toOption_eq_some_iff _ _).1 made).symm.trans built)
  refine ⟨printed, configuration, request, success, configured, built, beq_iff_eq.1 lines, ?_⟩
  intro due
  have alike := (each accept).2.1 due
  rw [if_neg (by decide)] at alike
  obtain ⟨value, member, other⟩ := List.any_eq_true.1 apart
  exact bne_iff_ne.1 other (alike value member)

end Several

end SignedRequest.CommandLine
