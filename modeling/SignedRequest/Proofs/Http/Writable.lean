import SignedRequest.Proofs.Http.Fields

/-!
Texts that a header can have as its value. What cannot break a line can be written, so a text of
printable characters can, and with a text every other one of its characters.
-/

namespace SignedRequest

/-- Texts that a header can have as its value. -/
def FieldValue.Writable (text : String) : Prop := ∃ value, FieldValue.ofText? text = some value

theorem FieldValue.writable_iff (text : String) :
    Writable text ↔
      ∀ c ∈ text.toList, (String.utf8EncodeChar c).all isFieldOctet = true := by
  unfold Writable ofText? ofBytes?
  rw [← List.all_eq_true, ← List.all_flatMap, ← Bytes.ofText]
  split
  · rename_i valid
    simp [valid]
  · rename_i invalid
    simp [invalid]

theorem FieldValue.Writable.of_subset {text other : String} (writable : Writable text)
    (part : other.toList ⊆ text.toList) : Writable other :=
  (writable_iff other).2 fun c member => (writable_iff text).1 writable c (part member)

theorem FieldValue.exists_mapM {texts : List String} (writable : ∀ text ∈ texts, Writable text) :
    ∃ values, texts.mapM FieldValue.ofText? = some values := by
  induction texts with
  | nil => exact ⟨[], rfl⟩
  | cons text texts ih =>
    obtain ⟨⟨value, here⟩, later⟩ := List.forall_mem_cons.1 writable
    obtain ⟨values, there⟩ := ih later
    exact ⟨value :: values, by simp [List.mapM_cons, here, there]⟩

theorem FieldValue.map_text_of_mapM {texts : List String} {values : List FieldValue}
    (made : texts.mapM FieldValue.ofText? = some values) :
    values.map FieldValue.text = texts ∧ ∀ text ∈ texts, Writable text := by
  induction texts generalizing values with
  | nil => simp_all
  | cons text texts ih =>
    simp only [List.mapM_cons, bind, Option.bind_eq_some_iff, pure, Option.some.injEq] at made
    obtain ⟨value, here, rest, there, rfl⟩ := made
    obtain ⟨same, writable⟩ := ih there
    exact ⟨by rw [List.map_cons, same, FieldValue.text_of_ofText? here],
      List.forall_mem_cons.2 ⟨⟨value, here⟩, writable⟩⟩

def Printable (text : String) : Prop := ∀ c ∈ text.toList, 0x20 ≤ c.toNat ∧ c.toNat < 0x7F

instance (text : String) : Decidable (Printable text) :=
  decidable_of_iff ((text.toList.all fun c => decide (0x20 ≤ c.toNat ∧ c.toNat < 0x7F)) = true)
    (by simp [Printable])

theorem printable_append_iff (a b : String) : Printable (a ++ b) ↔ Printable a ∧ Printable b := by
  simp only [Printable, String.toList_append, List.forall_mem_append]

theorem FieldValue.writable_of_printable {text : String} (printable : Printable text) :
    Writable text := by
  rw [writable_iff]
  intro c member
  have range := printable c member
  have ascii : Text.isAscii c = true := by
    simp only [Text.isAscii, decide_eq_true_eq]
    omega
  have each := Text.ascii_forall (p := fun c => !decide (0x20 ≤ c.toNat ∧ c.toNat < 0x7F) ||
    (String.utf8EncodeChar c).all isFieldOctet) (by decide +kernel) ascii
  simpa [range] using each

end SignedRequest
