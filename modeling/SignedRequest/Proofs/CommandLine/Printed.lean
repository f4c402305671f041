import SignedRequest.Proofs.CommandLine.Requests
import SignedRequest.Proofs.Signing.Steps
import SignedRequest.Proofs.Text.Lines

/-!
The lines that signing prints. Those of a date, a digest and an authorization header are told by the
names in front of them, and each stands for a value that is not the first that the request had under
its name; so they tell what was added, value by value.
-/

namespace SignedRequest

namespace CommandLine
open Outcome

def addedNames : List FieldName := [.date, .digest, .authorization]

def isAddedLine (line : String) : Bool :=
  addedNames.any fun name => (name.text ++ ": ").toList.isPrefixOf line.toList

/-- The options with the lines of such headers among those that were printed. -/
def RequestOptions.withPrinted (options : RequestOptions) (printed : List String) :
    RequestOptions :=
  options.withLines (printed.filter isAddedLine)

theorem isPrefixOf_lineOf_iff (name : FieldName) (field : FieldName × String) :
    (name.text ++ ": ").toList.isPrefixOf (lineOf field).toList = true ↔ field.1 = name := by
  have chars (name : FieldName) (text : String) :
      (name.text ++ ": " ++ text).toList = name.text.toList ++ ':' :: ' ' :: text.toList := by
    simp [String.toList_append]
  rw [List.isPrefixOf_iff_prefix]
  constructor
  · rintro ⟨rest, parts⟩
    have none (name : FieldName) := List.count_eq_zero.2 name.leads.1
    rw [lineOf, chars, String.toList_append, List.append_assoc] at parts
    have same := (Text.append_cons_inj ((none name).trans (none field.1).symm) parts).1
    exact FieldName.text_inj.1 (String.toList_injective same.symm)
  · rintro rfl
    exact ⟨field.2.toList, by rw [lineOf, ← String.toList_append]⟩

theorem isAddedLine_lineOf (field : FieldName × String) :
    isAddedLine (lineOf field) = decide (field.1 ∈ addedNames) := by
  rw [Bool.eq_iff_iff, isAddedLine, List.any_eq_true, decide_eq_true_iff]
  simp only [isPrefixOf_lineOf_iff, exists_eq_right']

/-- The values of a header that are not the first of another list of them. -/
def changed (before after : Fields) (name : FieldName) : List (FieldName × String) :=
  ((after.values name).filter fun value => (before.values name).head? != some value).map
    fun value => (name, value.text)

def addedFields (before after : Fields) : List (FieldName × String) :=
  (after.names.filter fun name => decide (name ∈ addedNames)).flatMap (changed before after)

theorem changedLines_eq (before after : Fields) (name : FieldName) :
    changedLines before after name = (changed before after name).map lineOf := by
  simp [changedLines, changed, lineOf]

theorem fst_of_mem_changed {before after : Fields} {name : FieldName} {field : FieldName × String}
    (member : field ∈ changed before after name) : field.1 = name := by
  obtain ⟨value, -, rfl⟩ := List.mem_map.1 member
  rfl

theorem filter_flatMap_of_parts {α β : Type} {part : α → List β} {keep : β → Bool}
    {chosen : α → Bool} (each : ∀ a, (part a).filter keep = if chosen a then part a else [])
    (list : List α) : (list.flatMap part).filter keep = (list.filter chosen).flatMap part := by
  induction list with
  | nil => rfl
  | cons a list ih =>
    rw [List.flatMap_cons, List.filter_append, ih, each, List.filter_cons]
    split
    · rfl
    · rfl

theorem filter_changed (before after : Fields) (name : FieldName)
    {keep : FieldName × String → Bool} {chosen : Bool}
    (told : ∀ field, field.1 = name → keep field = chosen) :
    (changed before after name).filter keep =
      if chosen then changed before after name else [] := by
  have each : ∀ field ∈ changed before after name, keep field = chosen :=
    fun field member => told field (fst_of_mem_changed member)
  rw [List.filter_congr each]
  cases chosen with
  | false => rw [List.filter_false, if_neg Bool.false_ne_true]
  | true => rw [List.filter_true, if_pos rfl]

theorem flatMap_changedLines (before after : Fields) (names : List FieldName) :
    names.flatMap (changedLines before after) = (names.flatMap (changed before after)).map lineOf := by
  rw [List.map_flatMap, funext (changedLines_eq before after)]

theorem filter_flatMap_changedLines (before after : Fields) :
    (after.names.flatMap (changedLines before after)).filter isAddedLine =
      (addedFields before after).map lineOf := by
  rw [flatMap_changedLines, List.filter_map, addedFields]
  refine congrArg (List.map lineOf) (filter_flatMap_of_parts (fun name => ?_) _)
  exact filter_changed before after name fun field same => by
    rw [Function.comp_apply, isAddedLine_lineOf, same]

theorem addedBy_flatMap_changed (before after : Fields) {text : String} {name : FieldName}
    (named : Text.asciiLower text = name.text) (names : List FieldName) :
    addedBy (names.flatMap (changed before after)) text =
      (names.filter fun other => other == name).flatMap fun other =>
        (changed before after other).flatMap fun field => settle field.2 := by
  rw [addedBy, filter_flatMap_of_parts (fun other => filter_changed before after other ?_),
    List.flatMap_assoc]
  intro field same
  rw [named, same, Bool.eq_iff_iff, beq_iff_eq, beq_iff_eq, FieldName.text_inj, eq_comm]

theorem addedBy_addedFields (before after : Fields) {text : String} {name : FieldName}
    (named : Text.asciiLower text = name.text) (added : name ∈ addedNames) :
    addedBy (addedFields before after) text =
      (changed before after name).flatMap fun field => settle field.2 := by
  have kept : ((after.names.filter fun other => decide (other ∈ addedNames)).filter
      fun other => other == name) = after.names.filter fun other => other == name := by
    rw [List.filter_filter]
    refine List.filter_congr fun other _ => ?_
    by_cases same : other = name <;> simp [same, added]
  rw [addedFields, addedBy_flatMap_changed before after named, kept]
  exact after.flatMap_filter_names name fun missing => by simp [changed, missing]

theorem addedBy_addedFields_of_other (before after : Fields) {text : String}
    (other : ∀ name ∈ addedNames, Text.asciiLower text ≠ name.text) :
    addedBy (addedFields before after) text = [] := by
  rw [addedBy, List.filter_eq_nil_iff.2, List.flatMap_nil]
  intro field member
  obtain ⟨name, listed, inside⟩ := List.mem_flatMap.1 member
  rw [fst_of_mem_changed inside, beq_iff_eq]
  exact other name (by simpa using (List.mem_filter.1 listed).2)

theorem runSign_eq_ok_iff {surroundings : Surroundings} {path : String} {options : RequestOptions}
    {configuration : SigningConfiguration} {request : Request}
    (configured : loadConfiguration surroundings SigningConfiguration.ofValue? path =
      .ok configuration) (built : buildRequest surroundings options = .ok request)
    (printed : List String) :
    runSign surroundings path options = .ok printed ↔
      let outcome := RequestSigner.sign { settings := configuration.settings } surroundings.now
        surroundings.draws request
      configuration.settings.validate = .ok () ∧ (∃ signature, outcome.result = .ok signature) ∧
        "✅ Request signed! (^///^)" :: outcome.request.fields.names.flatMap
          (changedLines request.fields outcome.request.fields) = printed := by
  unfold runSign SigningConfiguration.toSettings
  rw [configured, built]
  simp only [bind_eq_ok_iff, mapError_eq_ok_iff, Except.ok.injEq]
  constructor
  · rintro ⟨_, rfl, _, ⟨_, valid, rfl⟩, _, rfl, signature, success, lines⟩
    exact ⟨valid, ⟨signature, success⟩, lines⟩
  · rintro ⟨valid, ⟨signature, success⟩, lines⟩
    exact ⟨_, rfl, _, ⟨(), valid, rfl⟩, _, rfl, signature, success, lines⟩

end CommandLine
end SignedRequest
