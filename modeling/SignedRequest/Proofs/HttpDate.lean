import SignedRequest.Proofs.Authorization.Tokens
import SignedRequest.Proofs.Text.Pieces
import SignedRequest.Time.HttpDate

/-!
The text of a date. It begins with a day of the week, a comma and a space, and no colon in it has a
space behind it.
-/

namespace SignedRequest.HttpDate

def weekday (t : Instant) : String := weekdays.getD (t.unixSeconds / 86400 % 7) ""

theorem weekday_mem (t : Instant) : weekday t ∈ weekdays := by
  have range : t.unixSeconds / 86400 % 7 < weekdays.length := Nat.mod_lt _ (by decide)
  rw [weekday, List.getD_eq_getElem?_getD, List.getElem?_eq_getElem range, Option.getD_some]
  exact List.getElem_mem range

theorem digits_padded {width n : Nat} :
    padded width n ≠ "" ∧ ∀ c ∈ (padded width n).toList, c.isDigit = true := by
  have chars : (padded width n).toList =
      List.replicate (width - (toString n).length) '0' ++ (toString n).toList := by
    simp [padded, String.toList_append]
  refine ⟨fun empty => ?_, fun c member => ?_⟩
  · rw [empty, Authorization.toList_toString] at chars
    exact Nat.toDigits_ne_nil (List.append_eq_nil_iff.1 chars.symm).2
  · rw [chars, List.mem_append] at member
    rcases member with zero | digit
    · obtain rfl := List.eq_of_mem_replicate zero
      decide
    · exact Authorization.isDigit_of_mem_toString digit

theorem colon_not_mem_padded (width n : Nat) : ':' ∉ (padded width n).toList :=
  fun member => absurd (digits_padded.2 ':' member) (by decide)

theorem head_padded_append (width n : Nat) (rest : List Char) :
    ((padded width n).toList ++ rest).head? ≠ some ' ' := by
  obtain ⟨c, more, parts⟩ :=
    List.exists_cons_of_ne_nil (mt String.toList_eq_nil_iff.1 (digits_padded (n := n)).1)
  rw [parts]
  rintro ⟨⟩
  exact absurd (digits_padded.2 ' ' (parts ▸ List.mem_cons_self)) (by decide)

theorem colon_not_mem_months (n : Nat) : ':' ∉ (months.getD n "").toList := by
  have each : ∀ month ∈ months, ':' ∉ month.toList := by decide
  rw [List.getD_eq_getElem?_getD]
  cases found : months[n]? with
  | none => simp
  | some month => exact each month (List.mem_of_getElem? found)

theorem unbroken_time {front : String} (before : ':' ∉ front.toList) (minute second : Nat) :
    ¬[':', ' '] <:+: (front ++ ":" ++ padded 2 minute ++ ":" ++ padded 2 second ++
      " GMT").toList := by
  have parts : (front ++ ":" ++ padded 2 minute ++ ":" ++ padded 2 second ++ " GMT").toList =
      front.toList ++ ':' :: ((padded 2 minute).toList ++
        ':' :: ((padded 2 second).toList ++ " GMT".toList)) := by
    simp [String.toList_append]
  have ending : ':' ∉ (padded 2 second).toList ++ " GMT".toList := by
    rw [List.mem_append, not_or]
    exact ⟨colon_not_mem_padded 2 second, by decide⟩
  rw [parts]
  refine Text.not_pair_infix_append_cons before (head_padded_append _ _ _) ?_
  refine Text.not_pair_infix_append_cons (colon_not_mem_padded _ _) (head_padded_append _ _ _) ?_
  exact fun found => ending (found.subset (by simp))

/-- A date begins with its day of the week, and the only colons in it stand in front of digits. -/
theorem exists_of_format? {t : Instant} {text : String} (written : format? t = some text) :
    (∃ rest, text = weekday t ++ ", " ++ rest) ∧ ¬[':', ' '] <:+: text.toList := by
  unfold format? at written
  dsimp only at written
  split at written
  · simp at written
  · obtain rfl := Option.some.inj written
    refine ⟨⟨_, by simp only [weekday, String.append_assoc]; rfl⟩, unbroken_time ?_ _ _⟩
    have days : ∀ day ∈ weekdays, ':' ∉ day.toList := by decide
    have day := days _ (weekday_mem t)
    unfold weekday at day
    simp only [String.toList_append, List.mem_append, colon_not_mem_padded, colon_not_mem_months,
      day, or_false, false_or]
    decide

end SignedRequest.HttpDate
