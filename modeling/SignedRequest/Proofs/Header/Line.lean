import SignedRequest.Proofs.CommandLine.HeaderLines
import SignedRequest.Proofs.Text.LowerCase

/-!
A header is read back from its line. Lower case brings no colon and space together, joining brings
none together either, and what is left of a value by trimming is a part of it; so a line is cut where
its name ends and between its values, and nowhere else.
-/

namespace SignedRequest

namespace Text

theorem eq_of_mem_lowerGroup {sign c : Char} {before rest : List Char} (ascii : isAscii sign = true)
    (small : isLowered sign = false) (member : sign ∈ lowerGroup before c rest) :
    c = sign ∧ lowerGroup before c rest = [sign] := by
  have same : sign = c := (mem_lowerGroup member).resolve_right (by simp [small])
  subst same
  rw [lowerGroup_of_ascii ascii, List.mem_singleton] at member
  rw [lowerGroup_of_ascii ascii, ← member]
  exact ⟨rfl, rfl⟩

section
variable {a b : Char} (first : isAscii a = true ∧ isLowered a = false)
  (second : isAscii b = true ∧ isLowered b = false)
include first second

theorem pair_infix_of_lowerAfter {cs before : List Char} (found : [a, b] <:+: lowerAfter before cs) :
    [a, b] <:+: cs := by
  induction cs generalizing before with
  | nil => simp [lowerAfter] at found
  | cons c rest ih =>
    rw [lowerAfter_cons, pair_infix_append_iff] at found
    rcases found with inGroup | later | ⟨last, next⟩
    · obtain ⟨-, alone⟩ := eq_of_mem_lowerGroup first.1 first.2 (inGroup.subset (by simp))
      rw [alone] at inGroup
      exact absurd inGroup.length_le (by simp)
    · exact (ih later).trans (List.suffix_cons c rest).isInfix
    · obtain ⟨rfl, -⟩ := eq_of_mem_lowerGroup first.1 first.2 (List.mem_of_getLast? last)
      cases rest with
      | nil => simp [lowerAfter] at next
      | cons d rest =>
        rw [lowerAfter_cons, List.head?_append_of_ne_nil _ (lowerGroup_ne_nil _ d rest)] at next
        obtain ⟨rfl, -⟩ := eq_of_mem_lowerGroup second.1 second.2 (List.mem_of_head? next)
        exact ⟨[], rest, rfl⟩

theorem pair_infix_of_lower {text : String} (found : [a, b] <:+: (lower text).toList) :
    [a, b] <:+: text.toList := by
  rw [lower, String.toList_ofList] at found
  exact pair_infix_of_lowerAfter first second found

end

theorem isAllBlank_lower (text : String) : isAllBlank (lower text) = isAllBlank text := by
  have group (before : List Char) (c : Char) (rest : List Char) :
      (lowerGroup before c rest).all isBlank = isBlank c := by
    obtain ⟨d, member⟩ := List.exists_mem_of_ne_nil _ (lowerGroup_ne_nil before c rest)
    apply Bool.eq_iff_iff.2
    rw [List.all_eq_true]
    calc (∀ e ∈ lowerGroup before c rest, isBlank e = true)
        ↔ ∀ e ∈ lowerGroup before c rest, isBlank c = true :=
          forall₂_congr fun e inGroup => by rw [isBlank_of_mem_lowerGroup inGroup]
      _ ↔ isBlank c = true := ⟨fun all => all d member, fun blank _ _ => blank⟩
  rw [isAllBlank, isAllBlank, lower, String.toList_ofList]
  generalize [] = before
  induction text.toList generalizing before with
  | nil => rfl
  | cons c rest ih => rw [lowerAfter_cons, List.all_append, group, ih, List.all_cons]

end Text

namespace CommandLine

theorem settle_intercalate {values : List String} (settled : ∀ value ∈ values, Settled value) :
    settle (", ".intercalate values) = values := by
  by_cases empty : values = []
  · subst empty
    decide +kernel
  have single : ∀ part ∈ values.map String.toList, ¬[',', ' '] <:+: part :=
    List.forall_mem_map.2 fun value member => (settled value member).single
  have pieces : Text.pieces ", " (", ".intercalate values) = values := by
    have chars :
        (", ".intercalate values).toList = [',', ' '].intercalate (values.map String.toList) :=
      String.toList_intercalate
    rw [pieces_comma, chars, Text.piecesOf_intercalate (by decide) (by simpa) single]
    simp
  calc settle (", ".intercalate values)
      = (values.map Text.trim).filter (fun value => !value.isEmpty) := by rw [settle, pieces]
    _ = values.filter (fun value => !value.isEmpty) := by
        rw [List.map_congr_left fun value member => (settled value member).trimmed]
        simp
    _ = values :=
        List.filter_eq_self.2 fun value member => by simpa using (settled value member).filled

theorem Settled.unbroken_intercalate {values : List String}
    (settled : ∀ value ∈ values, Settled value) :
    ¬[':', ' '] <:+: (", ".intercalate values).toList := by
  rw [String.toList_intercalate]
  apply Text.not_pair_infix_intercalate (by decide) (by decide) (by decide) (by decide)
  exact List.forall_mem_map.2 fun value member => (settled value member).unbroken

end CommandLine

namespace Header

open CommandLine

variable {name : HeaderName} {values : List String}

theorem settled_of_mem_ofValues
    (plain : ∀ value ∈ values, ¬[':', ' '] <:+: value.toList ∧ ¬[',', ' '] <:+: value.toList) :
    ∀ value ∈ (ofValues name values).values, Settled value := by
  intro value member
  obtain ⟨trimmed, filled⟩ := List.mem_filter.1 member
  obtain ⟨original, among, rfl⟩ := List.mem_map.1 trimmed
  have inside := Text.trim_infix original
  exact
    { unbroken := fun found => (plain original among).1 (found.trans inside)
      single := fun found => (plain original among).2 (found.trans inside)
      trimmed := Text.trim_trim original
      filled := by simpa using filled }

/-- A header is read back from its line, its name in lower case, if neither the name nor a value has a
separator of the line in it. -/
theorem ofLine?_line_ofValues (filled : name.isBlank = false)
    (unbroken : ¬[':', ' '] <:+: name.text.toList)
    (plain : ∀ value ∈ values, ¬[':', ' '] <:+: value.toList ∧ ¬[',', ' '] <:+: value.toList) :
    ofLine? (ofValues name values).line =
      some ⟨⟨(ofValues name values).name.lower⟩, (ofValues name values).values⟩ := by
  have settled : ∀ value ∈ (ofValues name values).values, Settled value :=
    settled_of_mem_ofValues plain
  have named : ¬[':', ' '] <:+: (ofValues name values).name.lower.toList :=
    fun found => unbroken (Text.pair_infix_of_lower (by decide) (by decide) found)
  have solid : Text.isAllBlank (ofValues name values).name.lower = false := by
    rw [HeaderName.lower, Text.isAllBlank_lower]
    exact filled
  rw [line, ofLine?_of_unbroken named solid (Settled.unbroken_intercalate settled),
    settle_intercalate settled]

theorem ofLine?_line_of_ends :
    HeaderName.isBlank ⟨"X-A:"⟩ = false ∧
      ofLine? (ofValues ⟨"X-A:"⟩ [" a:", "", "b,", ",", "\t"]).line =
        some ⟨⟨"x-a:"⟩, ["a:", "b,", ","]⟩ := by
  have filled : HeaderName.isBlank ⟨"X-A:"⟩ = false := by decide +kernel
  have lowered : (ofValues ⟨"X-A:"⟩ [" a:", "", "b,", ",", "\t"]).name.lower = "x-a:" := by
    decide +kernel
  have kept : (ofValues ⟨"X-A:"⟩ [" a:", "", "b,", ",", "\t"]).values = ["a:", "b,", ","] := by
    decide +kernel
  rw [ofLine?_line_ofValues filled (by decide +kernel) (by decide +kernel), kept, lowered]
  exact ⟨filled, rfl⟩

end Header

end SignedRequest
