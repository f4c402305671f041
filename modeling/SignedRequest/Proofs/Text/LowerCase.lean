import SignedRequest.Proofs.Text.Ascii

/-!
The lower case of a text. It agrees with the folding of ASCII letters on ASCII texts, it makes
neither white space nor punctuation, and one character beyond ASCII, the sign of the kelvin, has a
lower case within it.
-/

namespace SignedRequest.Text

/-- A character that lower case may put where another one stood: a small letter of ASCII, or a
character beyond ASCII that is not white space. -/
def isLowered (d : Char) : Bool := d.isLower || (!isAscii d && !isBlank d)

def CaseTable.Run.letters (run : CaseTable.Run) : List Char :=
  (List.range (run.last + 1 - run.first)).filterMap fun i =>
    if run.covers (run.first + i) then some (Char.ofNat (run.first + i + run.offset : Int).toNat)
    else none

theorem CaseTable.lowered_letters :
    (CaseTable.lowerRuns.all fun run => run.letters.all fun d =>
      isLowered d && (d == 'k' || !isAscii d)) = true := by
  decide +kernel

theorem CaseTable.Run.mem_letters {run : CaseTable.Run} {code : Nat}
    (covered : run.covers code = true) :
    Char.ofNat (code + run.offset : Int).toNat ∈ run.letters := by
  have range := covered
  simp only [covers, Bool.and_eq_true, decide_eq_true_eq] at range
  have restored : run.first + (code - run.first) = code := by omega
  refine List.mem_filterMap.2 ⟨code - run.first, List.mem_range.2 (by omega), ?_⟩
  rw [← Int.natCast_add, restored, if_pos covered]

theorem lowerChar_of_ascii {c : Char} (ascii : isAscii c = true) : lowerChar c = [c.toLower] := by
  have small : c.toNat < 0x80 := by simpa [isAscii] using ascii
  simp [lowerChar, small]

theorem CaseTable.Run.letter_cases {run : CaseTable.Run} (member : run ∈ CaseTable.lowerRuns)
    {d : Char} (letter : d ∈ run.letters) :
    isLowered d = true ∧ (d = 'k' ∨ isAscii d = false) := by
  have table := List.all_eq_true.1 (List.all_eq_true.1 CaseTable.lowered_letters run member) d
    letter
  simpa using table

theorem lowerChar_cases {c : Char} (wide : isAscii c = false) :
    lowerChar c = ['i', '\u0307'] ∨
      (∃ run ∈ CaseTable.lowerRuns, ∃ d ∈ run.letters, lowerChar c = [d]) ∨ lowerChar c = [c] := by
  have large : ¬c.toNat < 0x80 := by simpa [isAscii] using wide
  unfold lowerChar
  rw [if_neg large]
  split
  · exact .inl rfl
  · split
    · rename_i run found
      have covered : run.covers c.toNat = true :=
        List.find?_some (p := fun run : CaseTable.Run => run.covers c.toNat) found
      exact .inr (.inl ⟨run, List.mem_of_find?_eq_some found, _,
        CaseTable.Run.mem_letters covered, rfl⟩)
    · exact .inr (.inr rfl)

theorem lowerChar_of_wide {c : Char} (wide : isAscii c = false) :
    (∀ d ∈ lowerChar c, d = c ∨ isLowered d = true) ∧
      ∃ d ∈ lowerChar c, d = 'k' ∨ isAscii d = false := by
  rcases lowerChar_cases wide with dotted | ⟨run, member, d, letter, becomes⟩ | same
  · have letters : ∀ d ∈ ['i', '\u0307'], isLowered d = true := List.all_eq_true.1 (by decide)
    rw [dotted]
    exact ⟨fun d member => .inr (letters d member), '\u0307', by decide⟩
  · obtain ⟨lowered, range⟩ := CaseTable.Run.letter_cases member letter
    rw [becomes]
    exact ⟨by simp [lowered], by simpa using range⟩
  · rw [same]
    exact ⟨by simp, c, by simp, .inr wide⟩

theorem mem_lowerChar {c d : Char} (member : d ∈ lowerChar c) : d = c ∨ isLowered d = true := by
  cases ascii : isAscii c with
  | true =>
    rw [lowerChar_of_ascii ascii, List.mem_singleton] at member
    subst member
    rcases toLower_eq_or_isLower c with same | small
    · exact .inl same
    · exact .inr (by simp [isLowered, small])
  | false => exact (lowerChar_of_wide ascii).1 d member

/-- What a character becomes between what precedes it and what follows. -/
def lowerGroup (before : List Char) (c : Char) (rest : List Char) : List Char :=
  if c == 'Σ' then [if meetsCased before && !meetsCased rest then 'ς' else 'σ'] else lowerChar c

theorem lowerAfter_cons (before : List Char) (c : Char) (rest : List Char) :
    lowerAfter before (c :: rest) = lowerGroup before c rest ++ lowerAfter (c :: before) rest := by
  unfold lowerGroup
  rw [lowerAfter]
  split <;> rfl

theorem mem_lowerGroup {before rest : List Char} {c d : Char}
    (member : d ∈ lowerGroup before c rest) : d = c ∨ isLowered d = true := by
  unfold lowerGroup at member
  split at member
  · rw [List.mem_singleton] at member
    subst member
    split <;> exact .inr (by decide)
  · exact mem_lowerChar member

theorem lowerGroup_of_ascii {c : Char} (ascii : isAscii c = true) (before rest : List Char) :
    lowerGroup before c rest = [c.toLower] := by
  have other : (c == 'Σ') = false := by
    rw [beq_eq_false_iff_ne]
    intro same
    subst same
    exact absurd ascii (by decide)
  simp [lowerGroup, other, lowerChar_of_ascii ascii]

theorem lowerGroup_of_wide {c : Char} (wide : isAscii c = false) (before rest : List Char) :
    ∃ d ∈ lowerGroup before c rest, d = 'k' ∨ isAscii d = false := by
  unfold lowerGroup
  split
  · refine ⟨_, List.mem_singleton_self _, ?_⟩
    split <;> exact .inr (by decide)
  · exact (lowerChar_of_wide wide).2

theorem mem_lowerAfter {before cs : List Char} {d : Char} (member : d ∈ lowerAfter before cs) :
    d ∈ cs ∨ isLowered d = true := by
  induction cs generalizing before with
  | nil => simp [lowerAfter] at member
  | cons c rest ih =>
    rw [lowerAfter_cons, List.mem_append] at member
    rcases member with here | later
    · rcases mem_lowerGroup here with rfl | lowered
      · exact .inl List.mem_cons_self
      · exact .inr lowered
    · exact (ih later).imp_left (List.mem_cons_of_mem c)

/-- Lower case makes no white space and no punctuation. -/
theorem mem_of_mem_lower {text : String} {d : Char} (member : d ∈ (lower text).toList)
    (other : isLowered d = false) : d ∈ text.toList := by
  rw [lower, String.toList_ofList] at member
  exact (mem_lowerAfter member).resolve_right (by simp [other])

theorem isLowered_of_isBlank {c : Char} (blank : isBlank c = true) : isLowered c = false := by
  cases ascii : isAscii c with
  | true =>
    have each := ascii_forall (p := fun c => !isBlank c || !isLowered c) (by decide +kernel) ascii
    simpa [blank] using each
  | false =>
    have noLetter : c.isLower = false := by
      rw [← Bool.not_eq_true]
      intro letter
      simp [isAscii_of_isLower letter] at ascii
    simp [isLowered, noLetter, blank]

theorem solid_lower {text : String} (solid : ∀ c ∈ text.toList, isBlank c = false) :
    ∀ c ∈ (lower text).toList, isBlank c = false := by
  intro c member
  rw [← Bool.not_eq_true]
  intro blank
  have solidHere := solid c (mem_of_mem_lower member (isLowered_of_isBlank blank))
  simp [blank] at solidHere

theorem mem_lowerAfter_of_fixed {cs : List Char} {c : Char} (member : c ∈ cs) (other : c ≠ 'Σ')
    (fixed : lowerChar c = [c]) (before : List Char) : c ∈ lowerAfter before cs := by
  induction cs generalizing before with
  | nil => simp at member
  | cons d rest ih =>
    rw [lowerAfter_cons, List.mem_append]
    rcases List.mem_cons.1 member with rfl | later
    · exact .inl (by simp [lowerGroup, other, fixed])
    · exact .inr (ih later _)

theorem mem_lower_of_fixed {text : String} {c : Char} (member : c ∈ text.toList) (other : c ≠ 'Σ')
    (fixed : lowerChar c = [c]) : c ∈ (lower text).toList := by
  rw [lower, String.toList_ofList]
  exact mem_lowerAfter_of_fixed member other fixed []

def blankCodes : List Nat :=
  List.range' 9 5 ++ List.range' 0x2000 11 ++
    [0x20, 0x85, 0xA0, 0x1680, 0x2028, 0x2029, 0x202F, 0x205F, 0x3000]

theorem mem_blankCodes_of_isBlank {c : Char} (blank : isBlank c = true) : c.toNat ∈ blankCodes := by
  simp only [isBlank, Bool.or_eq_true, Bool.and_eq_true, decide_eq_true_eq, beq_iff_eq] at blank
  simp only [blankCodes, List.mem_append, List.mem_range'_1, List.mem_cons, List.not_mem_nil,
    or_false]
  omega

theorem lowerChar_of_isBlank {c : Char} (blank : isBlank c = true) : lowerChar c = [c] := by
  -- White space is a finite set of characters, which have no lower case of their own.
  have each : (blankCodes.all fun code => lowerChar (Char.ofNat code) == [Char.ofNat code]) =
      true := by decide +kernel
  have found := List.all_eq_true.1 each c.toNat (mem_blankCodes_of_isBlank blank)
  simpa only [Char.ofNat_toNat, beq_iff_eq] using found

theorem solid_of_solid_lower {text : String}
    (solid : ∀ c ∈ (lower text).toList, isBlank c = false) :
    ∀ c ∈ text.toList, isBlank c = false := by
  intro c member
  rw [← Bool.not_eq_true]
  intro blank
  have other : c ≠ 'Σ' := by
    rintro rfl
    exact absurd blank (by decide)
  have kept := solid c (mem_lower_of_fixed member other (lowerChar_of_isBlank blank))
  simp [blank] at kept

theorem isBlank_of_mem_lowerGroup {before rest : List Char} {c d : Char}
    (member : d ∈ lowerGroup before c rest) : isBlank d = isBlank c := by
  cases blank : isBlank c with
  | true =>
    have other : (c == 'Σ') = false := by
      rw [beq_eq_false_iff_ne]
      intro same
      subst same
      exact absurd blank (by decide)
    have same : d = c := by simpa [lowerGroup, other, lowerChar_of_isBlank blank] using member
    rw [same, blank]
  | false =>
    rcases mem_lowerGroup member with rfl | lowered
    · exact blank
    · rw [← Bool.not_eq_true]
      intro white
      simp [isLowered_of_isBlank white] at lowered

theorem lowerAfter_of_ascii {cs : List Char} (ascii : ∀ c ∈ cs, isAscii c = true)
    (before : List Char) : lowerAfter before cs = cs.map Char.toLower := by
  induction cs generalizing before with
  | nil => rfl
  | cons c rest ih =>
    rw [lowerAfter_cons, lowerGroup_of_ascii (ascii c List.mem_cons_self),
      ih fun other member => ascii other (List.mem_cons_of_mem _ member)]
    rfl

theorem lower_of_isAscii {text : String} (ascii : IsAscii text) : lower text = asciiLower text := by
  rw [lower, lowerAfter_of_ascii ascii, asciiLower]

theorem lowerAfter_of_wide {cs : List Char} {c : Char} (member : c ∈ cs)
    (wide : isAscii c = false) (before : List Char) :
    ∃ d ∈ lowerAfter before cs, d = 'k' ∨ isAscii d = false := by
  induction cs generalizing before with
  | nil => simp at member
  | cons first rest ih =>
    rw [lowerAfter_cons]
    rcases List.mem_cons.1 member with rfl | later
    -- The kelvin sign alone becomes a letter of ASCII, which is `k`.
    · obtain ⟨d, found, beyond⟩ := lowerGroup_of_wide wide before rest
      exact ⟨d, List.mem_append_left _ found, beyond⟩
    · obtain ⟨d, found, beyond⟩ := ih later (first :: before)
      exact ⟨d, List.mem_append_right _ found, beyond⟩

theorem isAscii_of_lower {text : String} (ascii : IsAscii (lower text))
    (noKelvin : 'k' ∉ (lower text).toList) : IsAscii text := by
  intro c member
  cases range : isAscii c with
  | true => rfl
  | false =>
    obtain ⟨d, found, kelvin | beyond⟩ := lowerAfter_of_wide member range []
    · exact absurd (by simpa [lower, kelvin] using found) noKelvin
    · have inside := ascii d (by simpa [lower] using found)
      simp [beyond] at inside

theorem lowerGroup_ne_nil (before : List Char) (c : Char) (rest : List Char) :
    lowerGroup before c rest ≠ [] := by
  cases ascii : isAscii c with
  | true => simp [lowerGroup_of_ascii ascii]
  | false =>
    obtain ⟨d, found, _⟩ := lowerGroup_of_wide ascii before rest
    exact List.ne_nil_of_mem found

theorem lowerAfter_ne_nil {cs : List Char} (nonempty : cs ≠ []) (before : List Char) :
    lowerAfter before cs ≠ [] := by
  cases cs with
  | nil => exact absurd rfl nonempty
  | cons c rest =>
    rw [lowerAfter_cons]
    exact List.append_ne_nil_of_left_ne_nil (lowerGroup_ne_nil before c rest) _

theorem lower_ne_empty {text : String} (nonempty : text ≠ "") : lower text ≠ "" := by
  have chars : text.toList ≠ [] := by simpa using nonempty
  simpa [lower] using lowerAfter_ne_nil chars []

theorem isBlank_head_lower (text : String) :
    (lower text).toList.head?.map isBlank = text.toList.head?.map isBlank := by
  rw [lower, String.toList_ofList]
  cases text.toList with
  | nil => rfl
  | cons c rest =>
    rw [lowerAfter_cons]
    cases group : lowerGroup [] c rest with
    | nil => exact absurd group (lowerGroup_ne_nil [] c rest)
    | cons d ds =>
      have first : d ∈ lowerGroup [] c rest := by simp [group]
      simp [isBlank_of_mem_lowerGroup first]

theorem lowerAfter_concat {last : Char} (ascii : isAscii last = true) (cs before : List Char) :
    ∃ front, lowerAfter before (cs ++ [last]) = front ++ [last.toLower] := by
  induction cs generalizing before with
  | nil => exact ⟨[], by simp [lowerAfter_cons, lowerGroup_of_ascii ascii, lowerAfter]⟩
  | cons c rest ih =>
    obtain ⟨front, parts⟩ := ih (c :: before)
    refine ⟨lowerGroup before c (rest ++ [last]) ++ front, ?_⟩
    rw [List.cons_append, lowerAfter_cons, parts, List.append_assoc]

theorem lower_parenthesized (inner : String) :
    ∃ lowered, lower ("(" ++ inner ++ ")") = "(" ++ lowered ++ ")" := by
  have ascii : isAscii ')' = true := by decide
  obtain ⟨front, parts⟩ := lowerAfter_concat ascii inner.toList ['(']
  refine ⟨String.ofList front, String.toList_injective ?_⟩
  have opened : ("(" ++ inner ++ ")").toList = '(' :: (inner.toList ++ [')']) := by
    simp [String.toList_append]
  rw [lower, opened, lowerAfter_cons, parts, lowerGroup_of_ascii (by decide)]
  simp [String.toList_append]

end SignedRequest.Text
