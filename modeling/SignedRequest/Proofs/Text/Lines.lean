import Mathlib.Algebra.Ring.Nat
import SignedRequest.Text.Separator

/-!
Texts that are made of lines. The lines are found again by cutting the text at its line feeds if
they have none of their own, and lines that have as many of them as those of another text are the
same if the texts are.
-/

namespace SignedRequest.Text

theorem piecesOf_singleton (c : Char) (cs : List Char) : piecesOf c [] cs = cs.splitOn c := by
  induction cs with
  | nil => rw [piecesOf, List.splitOn_nil]
  | cons d rest ih =>
    rw [piecesOf, List.splitOn_cons_eq_if_modifyHead]
    by_cases same : d = c
    · simp [same, ih]
    · cases pieces : rest.splitOn c with
      | nil => exact absurd pieces (List.splitOn_ne_nil c rest)
      | cons piece pieces => simp [same, Ne.symm same, ih, pieces]

theorem pieces_singleton (c : Char) (text : String) :
    pieces (String.singleton c) text = (text.toList.splitOn c).map String.ofList := by
  simp [pieces, piecesOf_singleton]

theorem intercalate_concat (separator : String) (lines : List String) (line last : String) :
    separator.intercalate (lines ++ [line, last]) =
      separator.intercalate (lines ++ [line ++ separator ++ last]) := by
  by_cases first : lines = []
  · simp [first, String.intercalate_cons_cons]
  · rw [String.intercalate_append_of_ne_nil first (by simp),
      String.intercalate_append_of_ne_nil first (by simp), String.intercalate_cons_cons,
      String.intercalate_singleton, String.intercalate_singleton]

section

variable {c : Char}

theorem length_splitOn (cs : List Char) : (cs.splitOn c).length = cs.count c + 1 := by
  induction cs with
  | nil => simp
  | cons d rest ih =>
    rw [List.splitOn_cons_eq_if_modifyHead]
    by_cases same : d = c <;> simp [same, ih]

theorem splitOn_append {front : List Char} (unbroken : c ∉ front) (cs : List Char) :
    ∃ rest later, (front ++ cs).splitOn c = (front ++ rest) :: later := by
  induction front with
  | nil => exact List.exists_cons_of_ne_nil (List.splitOn_ne_nil c cs)
  | cons d front ih =>
    rw [List.mem_cons, not_or] at unbroken
    obtain ⟨rest, later, cut⟩ := ih unbroken.2
    refine ⟨rest, later, ?_⟩
    rw [List.cons_append, List.splitOn_cons_eq_if_modifyHead, cut]
    simp [Ne.symm unbroken.1]

theorem count_intercalate (parts : List (List Char)) :
    ([c].intercalate parts).count c = parts.length - 1 + (parts.map (List.count c)).sum := by
  induction parts with
  | nil => simp
  | cons part rest ih =>
    by_cases last : rest = []
    · simp [last]
    · have positive := List.length_pos_iff.2 last
      rw [List.intercalate_cons_of_ne_nil last]
      simp only [List.count_append, List.count_singleton_self, List.length_cons, List.map_cons,
        List.sum_cons, ih]
      omega

theorem length_pieces_intercalate (c : Char) {lines : List String} (some : lines ≠ []) :
    (pieces (String.singleton c) ((String.singleton c).intercalate lines)).length =
      lines.length + (lines.map fun line => line.toList.count c).sum := by
  have positive := List.length_pos_iff.2 some
  rw [pieces_singleton, List.length_map, length_splitOn, String.toList_intercalate,
    String.toList_singleton, count_intercalate, List.length_map, List.map_map, Function.comp_def]
  omega

theorem pieces_intercalate (c : Char) {lines : List String} (some : lines ≠ [])
    (unbroken : ∀ line ∈ lines, c ∉ line.toList) :
    pieces (String.singleton c) ((String.singleton c).intercalate lines) = lines := by
  rw [pieces_singleton, String.toList_intercalate, String.toList_singleton,
    List.splitOn_intercalate c (by simpa using unbroken) (by simpa using some), List.map_map]
  simp

theorem append_cons_inj {front other back rest : List Char}
    (counted : front.count c = other.count c) (same : front ++ c :: back = other ++ c :: rest) :
    front = other ∧ back = rest := by
  induction front generalizing other with
  | nil =>
    cases other with
    | nil => exact ⟨rfl, (List.cons.inj same).2⟩
    | cons d other =>
      obtain rfl : c = d := (List.cons.inj same).1
      simp at counted
  | cons d front ih =>
    cases other with
    | nil =>
      obtain rfl : d = c := (List.cons.inj same).1
      simp at counted
    | cons e other =>
      obtain ⟨rfl, tails⟩ := List.cons.inj same
      obtain ⟨rfl, later⟩ := ih (by simpa [List.count_cons] using counted) tails
      exact ⟨rfl, later⟩

theorem intercalate_append_singleton (c : Char) {parts : List (List Char)} (some : parts ≠ []) :
    [c].intercalate parts ++ [c] = parts.flatMap (· ++ [c]) := by
  induction parts with
  | nil => exact absurd rfl some
  | cons part rest ih =>
    by_cases last : rest = []
    · simp [last]
    · rw [List.intercalate_cons_of_ne_nil last, List.flatMap_cons, List.append_assoc,
        List.append_assoc, ih last, List.append_assoc]

/-- Parts that have the separator equally often are told apart by what they make up, together with
what follows them. -/
theorem map_eq_of_intercalate_eq {α : Type} {items : List α} {f g : α → List Char}
    (tail : List (List Char)) (counted : ∀ item ∈ items, (f item).count c = (g item).count c)
    (same : [c].intercalate (items.map f ++ tail) = [c].intercalate (items.map g ++ tail)) :
    ∀ item ∈ items, f item = g item := by
  induction items with
  | nil => simp
  | cons item rest ih =>
    rw [List.forall_mem_cons] at counted ⊢
    simp only [List.map_cons, List.cons_append] at same
    by_cases last : rest = [] ∧ tail = []
    · obtain ⟨rfl, rfl⟩ := last
      exact ⟨by simpa using same, by simp⟩
    · have more (h : α → List Char) : rest.map h ++ tail ≠ [] := by
        simpa only [ne_eq, List.append_eq_nil_iff, List.map_eq_nil_iff] using last
      rw [List.intercalate_cons_of_ne_nil (more f), List.intercalate_cons_of_ne_nil (more g),
        List.append_assoc, List.append_assoc, List.singleton_append, List.singleton_append] at same
      obtain ⟨here, later⟩ := append_cons_inj counted.1 same
      exact ⟨here, ih counted.2 later⟩

end

end SignedRequest.Text
