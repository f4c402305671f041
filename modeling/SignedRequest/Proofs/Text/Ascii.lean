import SignedRequest.Text.Blank
import SignedRequest.Text.Case

/-!
The ASCII repertoire. What holds of its characters one by one is decided by going through them, and
folding the case of its letters touches no other character.
-/

namespace SignedRequest.Text

/-- What holds of each character of a list is decided by going through the list; as a statement on
all characters it would be decided by going through those. -/
theorem forall_mem_of_all {cs : List Char} {p : Char → Prop} [DecidablePred p]
    (each : (cs.all fun c => decide (p c)) = true) : ∀ c ∈ cs, p c := by
  simpa using each

def isAscii (c : Char) : Bool := c.toNat < 0x80

def IsAscii (text : String) : Prop := ∀ c ∈ text.toList, isAscii c = true

instance (text : String) : Decidable (IsAscii text) :=
  decidable_of_iff (text.toList.all isAscii = true) List.all_eq_true

theorem ascii_forall {p : Char → Bool}
    (each : ((List.range 0x80).all fun code => p (Char.ofNat code)) = true) {c : Char}
    (ascii : isAscii c = true) : p c = true := by
  have small : c.toNat < 0x80 := by simpa [isAscii] using ascii
  have found := List.all_eq_true.1 each c.toNat (List.mem_range.2 small)
  rwa [Char.ofNat_toNat] at found

theorem isLower_iff (c : Char) : c.isLower = true ↔ 97 ≤ c.toNat ∧ c.toNat ≤ 122 := by
  change (decide (c.val ≥ 97) && decide (c.val ≤ 122)) = true ↔ _
  simp [UInt32.le_iff_toNat_le]

theorem isUpper_iff (c : Char) : c.isUpper = true ↔ 65 ≤ c.toNat ∧ c.toNat ≤ 90 := by
  change decide (c.val ≥ 65 ∧ c.val ≤ 90) = true ↔ _
  simp [UInt32.le_iff_toNat_le]

theorem isAlpha_iff (c : Char) : c.isAlpha = true ↔ c.isUpper = true ∨ c.isLower = true :=
  Bool.or_eq_true_iff

theorem isAscii_of_isLower {c : Char} (letter : c.isLower = true) : isAscii c = true := by
  have range := (isLower_iff c).1 letter
  simp only [isAscii, decide_eq_true_eq]
  omega

theorem toLower_of_not_ascii {c : Char} (wide : isAscii c = false) : c.toLower = c := by
  have large : 0x80 ≤ c.toNat := by simpa [isAscii] using wide
  unfold Char.toLower
  split
  · rename_i upper
    have bound := UInt32.le_iff_toNat_le.1 upper.2
    have value : c.val.toNat = c.toNat := rfl
    simp at bound
    omega
  · rfl

theorem isAscii_toLower (c : Char) : isAscii c.toLower = isAscii c := by
  cases ascii : isAscii c with
  | true => exact ascii_forall (p := fun c => isAscii c.toLower) (by decide +kernel) ascii
  | false => rw [toLower_of_not_ascii ascii, ascii]

theorem toLower_toLower (c : Char) : c.toLower.toLower = c.toLower := by
  cases ascii : isAscii c with
  | true =>
    exact beq_iff_eq.1 (ascii_forall (p := fun c => c.toLower.toLower == c.toLower)
      (by decide +kernel) ascii)
  | false => rw [toLower_of_not_ascii ascii, toLower_of_not_ascii ascii]

theorem toLower_eq_or_isLower (c : Char) : c.toLower = c ∨ c.toLower.isLower = true := by
  cases ascii : isAscii c with
  | true =>
    simpa using ascii_forall (p := fun c => c.toLower == c || c.toLower.isLower)
      (by decide +kernel) ascii
  | false => exact .inl (toLower_of_not_ascii ascii)

theorem toList_asciiLower (text : String) :
    (asciiLower text).toList = text.toList.map Char.toLower := by
  simp [asciiLower]

@[simp]
theorem asciiLower_asciiLower (text : String) : asciiLower (asciiLower text) = asciiLower text := by
  apply String.toList_injective
  simp only [toList_asciiLower, List.map_map, Function.comp_def, toLower_toLower]

theorem isAscii_asciiLower_iff (text : String) : IsAscii (asciiLower text) ↔ IsAscii text := by
  simp [IsAscii, toList_asciiLower, isAscii_toLower]

end SignedRequest.Text
