import Mathlib.Data.List.Infix
import Mathlib.Data.List.TakeWhile
import SignedRequest.Proofs.Text.Words
import SignedRequest.Text.Separator

/-!
Cutting a text at a separator of two different characters. The pieces have no separator and make up
the text again, a text without one is its own piece, and the first piece ends where a separator is
first met.
-/

namespace SignedRequest.Text

section
variable {a b : Char} {cs front back : List Char}

theorem pair_prefix_cons_iff {c : Char} :
    [a, b] <+: c :: cs ↔ a = c ∧ cs.head? = some b := by
  cases cs with
  | nil => simp
  | cons d rest => simp [List.cons_prefix_cons, eq_comm]

theorem pair_infix_append_iff :
    [a, b] <:+: front ++ back ↔
      [a, b] <:+: front ∨ [a, b] <:+: back ∨ front.getLast? = some a ∧ back.head? = some b := by
  induction front with
  | nil => simp
  | cons c front ih =>
    rw [List.cons_append, List.infix_cons_iff, List.infix_cons_iff, ih, pair_prefix_cons_iff,
      pair_prefix_cons_iff]
    cases front with
    | nil => simp [@eq_comm _ a c, or_comm]
    | cons d front =>
      rw [List.getLast?_cons_cons, List.cons_append, List.head?_cons, List.head?_cons]
      tauto

theorem not_pair_infix_of_not_mem (unused : b ∉ cs) : ¬[a, b] <:+: cs :=
  fun found => unused (found.subset (by simp))

theorem not_pair_infix_append_cons (unused : a ∉ front) (next : back.head? ≠ some b)
    (later : ¬[a, b] <:+: back) : ¬[a, b] <:+: front ++ a :: back := by
  rw [pair_infix_append_iff, List.infix_cons_iff, pair_prefix_cons_iff]
  rintro (before | (⟨-, here⟩ | behind) | ⟨last, -⟩)
  · exact unused (before.subset (by simp))
  · exact next here
  · exact later behind
  · exact unused (List.mem_of_mem_getLast? last)

theorem exists_first_pair (found : [a, b] <:+: cs) :
    ∃ front back, cs = front ++ a :: b :: back ∧ ¬[a, b] <:+: front := by
  induction cs with
  | nil => simp at found
  | cons c cs ih =>
    by_cases here : [a, b] <+: c :: cs
    · obtain ⟨back, parts⟩ := here
      exact ⟨[], back, parts.symm, by simp⟩
    · obtain ⟨front, back, rfl, before⟩ := ih ((List.infix_cons_iff.1 found).resolve_left here)
      refine ⟨c :: front, back, rfl, fun again => ?_⟩
      refine (List.infix_cons_iff.1 again).elim (fun first => here ?_) before
      exact first.trans ⟨a :: b :: back, rfl⟩

theorem intercalate_piecesOf (cs : List Char) : [a, b].intercalate (piecesOf a [b] cs) = cs := by
  have some (cs : List Char) : piecesOf a [b] cs ≠ [] := by
    fun_cases piecesOf a [b] cs <;> simp_all
  fun_induction piecesOf a [b] cs with
  | case1 => rfl
  | case2 c rest here ih =>
    obtain ⟨back, parts⟩ := List.isPrefixOf_iff_prefix.1 here
    obtain ⟨rfl, rfl⟩ := List.cons.inj parts
    rw [List.intercalate_cons_of_ne_nil (some _), ih]
    rfl
  | case3 c rest other none ih => exact absurd none (some rest)
  | case4 c rest other piece pieces read ih =>
    rw [read] at ih
    cases pieces with
    | nil => simpa using ih
    | cons next pieces => simpa [List.intercalate_cons_cons] using ih

theorem infix_of_mem_piecesOf {piece : List Char} (member : piece ∈ piecesOf a [b] cs) :
    piece <:+: cs := by
  have inside := infix_intercalate [a, b] member
  rwa [intercalate_piecesOf] at inside

theorem not_pair_infix_of_mem_piecesOf {piece : List Char} (member : piece ∈ piecesOf a [b] cs) :
    ¬[a, b] <:+: piece := by
  fun_induction piecesOf a [b] cs generalizing piece with
  | case1 => simp_all
  | case2 c rest here ih =>
    rcases List.mem_cons.1 member with rfl | later
    · simp
    · exact ih later
  | case3 c rest other none ih =>
    obtain rfl := List.mem_singleton.1 member
    simp [List.infix_cons_iff]
  | case4 c rest other first pieces read ih =>
    rw [read] at ih
    rcases List.mem_cons.1 member with rfl | later
    · have front : first <+: rest := by
        have parts := intercalate_piecesOf (a := a) (b := b) rest
        rw [read] at parts
        cases pieces with
        | nil => exact ⟨[], by simpa using parts⟩
        | cons next pieces =>
          rw [List.intercalate_cons_cons, List.append_assoc] at parts
          exact ⟨_, parts⟩
      intro found
      refine (List.infix_cons_iff.1 found).elim (fun here => other ?_) (ih List.mem_cons_self)
      exact List.isPrefixOf_iff_prefix.2 (here.trans ((List.prefix_cons_inj c).2 front))
    · exact ih (List.mem_cons_of_mem _ later)

theorem piecesOf_of_not_pair_infix (whole : ¬[a, b] <:+: cs) : piecesOf a [b] cs = [cs] := by
  induction cs with
  | nil => rw [piecesOf]
  | cons c rest ih =>
    rw [List.infix_cons_iff, not_or, ← List.isPrefixOf_iff_prefix] at whole
    rw [piecesOf, if_neg whole.1, ih whole.2]

theorem piecesOf_append_cons_cons (different : a ≠ b) (before : ¬[a, b] <:+: front)
    (back : List Char) :
    piecesOf a [b] (front ++ a :: b :: back) = front :: piecesOf a [b] back := by
  induction front with
  | nil =>
    rw [List.nil_append, piecesOf, if_pos (by simp)]
    rfl
  | cons c front ih =>
    rw [List.infix_cons_iff, not_or] at before
    have here : ¬(a :: [b]).isPrefixOf (c :: (front ++ a :: b :: back)) = true := by
      rw [List.isPrefixOf_iff_prefix, pair_prefix_cons_iff]
      rintro ⟨rfl, second⟩
      refine before.1 (pair_prefix_cons_iff.2 ⟨rfl, ?_⟩)
      cases front with
      | nil => exact absurd (Option.some.inj second) different
      | cons d front => exact second
    rw [List.cons_append, piecesOf, if_neg here, ih before.2]

/-- No pair comes together where parts without one are joined by a separator that neither begins with
its second character nor ends with its first. -/
theorem not_pair_infix_intercalate {separator : List Char} (front : separator.head? ≠ some b)
    (back : separator.getLast? ≠ some a) (between : ¬[a, b] <:+: separator)
    (nonempty : separator ≠ []) {parts : List (List Char)}
    (each : ∀ part ∈ parts, ¬[a, b] <:+: part) : ¬[a, b] <:+: separator.intercalate parts := by
  induction parts with
  | nil => simp
  | cons part rest ih =>
    obtain ⟨here, later⟩ := List.forall_mem_cons.1 each
    cases rest with
    | nil => simpa using here
    | cons next rest =>
      have last : (part ++ separator).getLast? = separator.getLast? :=
        List.getLast?_append_of_ne_nil _ nonempty
      rw [List.intercalate_cons_cons, pair_infix_append_iff, pair_infix_append_iff, last]
      rintro ((inPart | inSeparator | ⟨-, first⟩) | inRest | ⟨before, -⟩)
      · exact here inPart
      · exact between inSeparator
      · exact front first
      · exact ih later inRest
      · exact back before

theorem piecesOf_intercalate (different : a ≠ b) {parts : List (List Char)} (nonempty : parts ≠ [])
    (each : ∀ part ∈ parts, ¬[a, b] <:+: part) :
    piecesOf a [b] ([a, b].intercalate parts) = parts := by
  induction parts with
  | nil => exact absurd rfl nonempty
  | cons part rest ih =>
    obtain ⟨here, later⟩ := List.forall_mem_cons.1 each
    cases rest with
    | nil => simpa using piecesOf_of_not_pair_infix here
    | cons next rest =>
      rw [List.intercalate_cons_cons, List.append_assoc, List.cons_append, List.singleton_append,
        piecesOf_append_cons_cons different here, ih (by simp) later]

end

end SignedRequest.Text
