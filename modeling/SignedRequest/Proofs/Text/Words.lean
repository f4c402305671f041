import Mathlib.Data.List.Basic
import Mathlib.Data.List.Induction
import Mathlib.Data.List.TakeWhile
import SignedRequest.Text.Blank
import SignedRequest.Text.Separator

/-!
Trimming, cutting, and the words of a text. What has no white space at its ends is left by trimming,
a text is cut where the separator is first met, and words that are joined by spaces are found again,
whatever white space is between them. Folding reaches over no comma that a space follows.
-/

namespace SignedRequest.Text

theorem mem_of_mem_trimChars {c : Char} {cs : List Char} (member : c ∈ trimChars cs) : c ∈ cs := by
  have kept := List.mem_reverse.1 member
  have later := (List.dropWhile_suffix _).mem kept
  exact (List.dropWhile_suffix _).mem (List.mem_reverse.1 later)

theorem mem_of_mem_trim {c : Char} {text : String} (member : c ∈ (trim text).toList) :
    c ∈ text.toList := by
  rw [trim, String.toList_ofList] at member
  exact mem_of_mem_trimChars member

theorem parts_of_cut? {separator : Char} {text before after : String}
    (cut : cut? separator text = some (before, after)) :
    text.toList = before.toList ++ separator :: after.toList ∧ separator ∉ before.toList := by
  unfold cut? at cut
  dsimp only at cut
  split at cut
  · simp at cut
  · rename_i c rest found
    obtain ⟨rfl, rfl⟩ := Prod.mk.inj (Option.some.inj cut)
    have first := List.head?_dropWhile_not (· != separator) text.toList
    rw [found] at first
    obtain rfl : c = separator := by simpa using first
    rw [String.toList_ofList, String.toList_ofList, ← found, List.takeWhile_append_dropWhile]
    exact ⟨rfl, fun member => by simpa using List.mem_takeWhile_imp member⟩

theorem mem_of_cut? {separator : Char} {text before after : String}
    (cut : cut? separator text = some (before, after)) {c : Char} (member : c ∈ after.toList) :
    c ∈ text.toList := by
  rw [(parts_of_cut? cut).1]
  simp [member]

theorem dropWhile_eq_self {cs : List Char} (solid : ∀ c, cs.head? = some c → isBlank c = false) :
    cs.dropWhile isBlank = cs := by
  cases cs with
  | nil => rfl
  | cons c rest => exact List.dropWhile_cons_of_neg (by simp [solid c rfl])

theorem trim_eq_self {text : String}
    (front : ∀ c, text.toList.head? = some c → isBlank c = false)
    (back : ∀ c, text.toList.getLast? = some c → isBlank c = false) : trim text = text := by
  unfold trim trimChars trimEnd
  rw [dropWhile_eq_self front, dropWhile_eq_self (by simpa using back), List.reverse_reverse,
    String.ofList_toList]

theorem exists_trim (text : String) :
    ∃ before after, text.toList = before ++ ((trim text).toList ++ after) ∧
      ∀ c ∈ before ++ after, isBlank c = true := by
  let rest := text.toList.dropWhile isBlank
  refine ⟨text.toList.takeWhile isBlank, (rest.reverse.takeWhile isBlank).reverse, ?_, ?_⟩
  · rw [trim, String.toList_ofList, trimChars, trimEnd, ← List.reverse_append,
      List.takeWhile_append_dropWhile, List.reverse_reverse, List.takeWhile_append_dropWhile]
  · intro c member
    rw [List.mem_append, List.mem_reverse] at member
    exact member.elim List.mem_takeWhile_imp List.mem_takeWhile_imp

theorem solid_ends_trim (text : String) :
    (∀ c, (trim text).toList.head? = some c → isBlank c = false) ∧
      ∀ c, (trim text).toList.getLast? = some c → isBlank c = false := by
  have first (cs : List Char) (c : Char) (head : (cs.dropWhile isBlank).head? = some c) :
      isBlank c = false := by
    have solid := List.head?_dropWhile_not isBlank cs
    rwa [head] at solid
  rw [trim, String.toList_ofList, trimChars, trimEnd]
  generalize rest : text.toList.dropWhile isBlank = cs
  refine ⟨fun c head => ?_, fun c last => first cs.reverse c (by simpa using last)⟩
  have front : (cs.reverse.dropWhile isBlank).reverse <+: cs := by
    rw [← List.reverse_suffix, List.reverse_reverse]
    exact List.dropWhile_suffix isBlank
  obtain ⟨after, parts⟩ := front
  obtain ⟨tail, same⟩ := List.head?_eq_some_iff.1 head
  refine first text.toList c ?_
  rw [rest, ← parts, same]
  rfl

theorem trim_trim (text : String) : trim (trim text) = trim text :=
  trim_eq_self (solid_ends_trim text).1 (solid_ends_trim text).2

theorem trim_infix (text : String) : (trim text).toList <:+: text.toList := by
  obtain ⟨before, after, parts, -⟩ := exists_trim text
  exact ⟨before, after, by rw [List.append_assoc, parts]⟩

theorem count_trim {c : Char} (solid : isBlank c = false) (text : String) :
    (trim text).toList.count c = text.toList.count c := by
  obtain ⟨before, after, parts, blank⟩ := exists_trim text
  have none (cs : List Char) (inside : ∀ d ∈ cs, d ∈ before ++ after) : cs.count c = 0 := by
    rw [List.count_eq_zero]
    intro member
    simp [blank c (inside c member)] at solid
  rw [parts, List.count_append, List.count_append, none before (by simp +contextual),
    none after (by simp +contextual), Nat.zero_add, Nat.add_zero]

theorem cut?_append {separator : Char} {before : String} (new : separator ∉ before.toList)
    (after : String) :
    cut? separator (before ++ String.singleton separator ++ after) = some (before, after) := by
  have chars : (before ++ String.singleton separator ++ after).toList =
      before.toList ++ separator :: after.toList := by simp [String.toList_append]
  have other : ∀ c ∈ before.toList, (c != separator) = true := fun c member =>
    bne_iff_ne.2 fun same => new (same ▸ member)
  simp only [cut?, chars]
  rw [List.dropWhile_append_of_pos other, List.takeWhile_append_of_pos other]
  simp

theorem cut?_eq_some_iff {separator : Char} {text before after : String} :
    cut? separator text = some (before, after) ↔
      text = before ++ String.singleton separator ++ after ∧ separator ∉ before.toList := by
  constructor
  · intro cut
    obtain ⟨chars, new⟩ := parts_of_cut? cut
    refine ⟨String.toList_injective ?_, new⟩
    rw [chars]
    simp [String.toList_append]
  · rintro ⟨rfl, new⟩
    exact cut?_append new after

theorem mem_intercalate {α : Type} {c : α} {separator : List α} {list : List (List α)}
    (member : c ∈ separator.intercalate list) : c ∈ separator ∨ ∃ cs ∈ list, c ∈ cs := by
  induction list with
  | nil => simp at member
  | cons first rest ih =>
    cases rest with
    | nil => exact .inr ⟨first, List.mem_cons_self, by simpa using member⟩
    | cons next rest =>
      rw [List.intercalate_cons_cons, List.append_assoc, List.mem_append, List.mem_append] at member
      rcases member with here | between | later
      · exact .inr ⟨first, List.mem_cons_self, here⟩
      · exact .inl between
      · exact (ih later).imp_right fun ⟨cs, member, inside⟩ =>
          ⟨cs, List.mem_cons_of_mem _ member, inside⟩

theorem infix_intercalate (separator : List Char) {parts : List (List Char)} {part : List Char}
    (member : part ∈ parts) : part <:+: separator.intercalate parts := by
  induction parts with
  | nil => simp at member
  | cons first rest ih =>
    rcases List.mem_cons.1 member with rfl | later
    · cases rest with
      | nil => simp
      | cons next rest =>
        rw [List.intercalate_cons_cons, List.append_assoc]
        exact (List.prefix_append _ _).isInfix
    · rw [List.intercalate_cons_of_ne_nil (List.ne_nil_of_mem later)]
      exact (ih later).trans (List.suffix_append _ _).isInfix

theorem ends_intercalate {separator : List Char} {list : List (List Char)}
    (some : ∀ cs ∈ list, cs ≠ []) (c : Char) :
    ((separator.intercalate list).head? = .some c → ∃ cs ∈ list, cs.head? = .some c) ∧
      ((separator.intercalate list).getLast? = .some c → ∃ cs ∈ list, cs.getLast? = .some c) := by
  induction list with
  | nil => simp
  | cons first rest ih =>
    obtain ⟨nonempty, others⟩ := List.forall_mem_cons.1 some
    obtain ⟨d, first, rfl⟩ := List.exists_cons_of_ne_nil nonempty
    cases rest with
    | nil => simp
    | cons next rest =>
      obtain ⟨e, next, rfl⟩ := List.exists_cons_of_ne_nil (others next List.mem_cons_self)
      rw [List.intercalate_cons_cons]
      constructor
      · intro front
        exact ⟨d :: first, List.mem_cons_self, by simpa using front⟩
      · intro back
        rw [List.intercalate_cons_cons_left, List.getLast?_append] at back
        obtain ⟨cs, member, last⟩ := (ih others).2 (by simpa using back)
        exact ⟨cs, List.mem_cons_of_mem _ member, last⟩

theorem mem_splitOnP_iff {p : Char → Bool} {c : Char} (cs : List Char) :
    (∃ piece ∈ cs.splitOnP p, c ∈ piece) ↔ c ∈ cs ∧ p c = false := by
  induction cs with
  | nil => simp
  | cons d rest ih =>
    rw [List.splitOnP_cons_eq_if_modifyHead, List.mem_cons]
    split
    · rename_i separates
      rw [List.exists_mem_cons_iff, ih]
      grind
    · rename_i inside
      obtain ⟨first, others, pieces⟩ :=
        List.exists_cons_of_ne_nil (List.splitOnP_ne_nil p rest)
      rw [pieces, List.exists_mem_cons_iff] at ih
      rw [pieces, List.modifyHead_cons, List.exists_mem_cons_iff, List.mem_cons, or_assoc, ih]
      grind

theorem mem_words_iff {text : String} {c : Char} :
    (∃ word ∈ words text, c ∈ word.toList) ↔ c ∈ text.toList ∧ isBlank c = false := by
  rw [← mem_splitOnP_iff]
  simp only [words, wordsOf, List.mem_map, List.mem_filter, exists_exists_and_eq_and,
    String.toList_ofList]
  refine exists_congr fun piece => ⟨fun ⟨⟨found, _⟩, inside⟩ => ⟨found, inside⟩, ?_⟩
  exact fun ⟨found, inside⟩ => ⟨⟨found, by simpa using List.ne_nil_of_mem inside⟩, inside⟩

theorem solid_of_mem_words {text word : String} (member : word ∈ words text) :
    word ≠ "" ∧ ∀ c ∈ word.toList, isBlank c = false := by
  refine ⟨?_, fun c inside => (mem_words_iff.1 ⟨word, member, inside⟩).2⟩
  obtain ⟨cs, found, rfl⟩ := List.mem_map.1 member
  simpa using (List.mem_filter.1 found).2

theorem toList_fold (text : String) :
    (fold text).toList = [' '].intercalate ((words text).map String.toList) := by
  rw [fold, String.toList_intercalate]
  rfl

theorem eq_space_of_mem_fold {text : String} {c : Char} (member : c ∈ (fold text).toList)
    (blank : isBlank c = true) : c = ' ' := by
  rw [toList_fold] at member
  rcases mem_intercalate member with space | ⟨_, listed, inside⟩
  · simpa using space
  · obtain ⟨word, found, rfl⟩ := List.mem_map.1 listed
    have solid := (solid_of_mem_words found).2 c inside
    simp [blank] at solid

theorem trim_fold (text : String) : trim (fold text) = fold text := by
  have some : ∀ cs ∈ (words text).map String.toList, cs ≠ [] := by
    intro cs member
    obtain ⟨word, found, rfl⟩ := List.mem_map.1 member
    simpa using (solid_of_mem_words found).1
  have solid {cs : List Char} (member : cs ∈ (words text).map String.toList) {c : Char}
      (inside : c ∈ cs) : isBlank c = false := by
    obtain ⟨word, found, rfl⟩ := List.mem_map.1 member
    exact (solid_of_mem_words found).2 c inside
  apply trim_eq_self
  · intro c front
    rw [toList_fold] at front
    obtain ⟨cs, member, first⟩ := (ends_intercalate some c).1 front
    exact solid member (List.mem_of_mem_head? first)
  · intro c back
    rw [toList_fold] at back
    obtain ⟨cs, member, last⟩ := (ends_intercalate some c).2 back
    exact solid member (List.mem_of_mem_getLast? last)

theorem wordsOf_append_cons {blank : Char} (white : isBlank blank = true)
    (front rest : List Char) :
    wordsOf (front ++ blank :: rest) = wordsOf front ++ wordsOf rest := by
  simp [wordsOf, List.splitOnP_append_cons front rest white]

theorem wordsOf_blank_append {run : List Char} (white : ∀ c ∈ run, isBlank c = true)
    (rest : List Char) : wordsOf (run ++ rest) = wordsOf rest := by
  induction run with
  | nil => rfl
  | cons blank run ih =>
    rw [List.forall_mem_cons] at white
    exact (wordsOf_append_cons white.1 [] (run ++ rest)).trans (ih white.2)

theorem words_append_run {run : String} (some : run ≠ "") (white : isAllBlank run = true)
    (before after : String) : words (before ++ run ++ after) = words before ++ words after := by
  obtain ⟨blank, more, chars⟩ := List.exists_cons_of_ne_nil (mt String.toList_eq_nil_iff.1 some)
  rw [isAllBlank, List.all_eq_true, chars, List.forall_mem_cons] at white
  unfold words
  rw [String.toList_append, String.toList_append, chars, List.append_assoc, List.cons_append,
    wordsOf_append_cons white.1, wordsOf_blank_append white.2, List.map_append]

/-- Whatever white space is put for other white space, the text is folded to the same. -/
theorem fold_append_run {run other : String} (some : run ≠ "") (white : isAllBlank run = true)
    (someOther : other ≠ "") (whiteOther : isAllBlank other = true) (before after : String) :
    fold (before ++ run ++ after) = fold (before ++ other ++ after) := by
  rw [fold, fold, words_append_run some white, words_append_run someOther whiteOther]

theorem wordsOf_intercalate (list : List (List Char)) :
    wordsOf ([' '].intercalate list) = list.flatMap wordsOf := by
  induction list with
  | nil => rfl
  | cons cs rest ih =>
    cases rest with
    | nil => simp
    | cons next rest =>
      rw [List.intercalate_cons_cons, List.append_assoc, List.singleton_append,
        wordsOf_append_cons (by decide), ih]
      rfl

theorem words_intercalate (list : List String) :
    words (" ".intercalate list) = list.flatMap words := by
  unfold words
  rw [String.toList_intercalate, show " ".toList = [' '] from rfl, wordsOf_intercalate,
    List.flatMap_map, List.map_flatMap]

theorem wordsOf_of_solid {word : List Char} (nonempty : word ≠ [])
    (solid : ∀ c ∈ word, isBlank c = false) : wordsOf word = [word] := by
  simp [wordsOf, List.splitOnP_eq_singleton solid, nonempty]

theorem words_of_solid {word : String} (nonempty : word ≠ "")
    (solid : ∀ c ∈ word.toList, isBlank c = false) : words word = [word] := by
  rw [words, wordsOf_of_solid (mt String.toList_eq_nil_iff.1 nonempty) solid, List.map_singleton,
    String.ofList_toList]

theorem words_intercalate_of_solid (list : List String)
    (solid : ∀ word ∈ list, word ≠ "" ∧ ∀ c ∈ word.toList, isBlank c = false) :
    words (" ".intercalate list) = list := by
  rw [words_intercalate, List.flatMap_congr fun word member =>
    words_of_solid (solid word member).1 (solid word member).2, List.flatMap_singleton']

theorem words_ne_nil {text : String} {c : Char} (member : c ∈ text.toList)
    (solid : isBlank c = false) : words text ≠ [] := by
  obtain ⟨word, found, -⟩ := mem_words_iff.2 ⟨member, solid⟩
  exact List.ne_nil_of_mem found

theorem mem_fold_of_solid {text : String} {c : Char} (member : c ∈ text.toList)
    (solid : isBlank c = false) : c ∈ (fold text).toList := by
  obtain ⟨word, found, inside⟩ := mem_words_iff.2 ⟨member, solid⟩
  rw [toList_fold]
  exact (infix_intercalate [' '] (List.mem_map_of_mem found)).subset inside

theorem exists_lastWord {cs : List Char} (nonempty : cs ≠ [])
    (solid : ∀ c, cs.getLast? = some c → isBlank c = false) :
    ∃ front word, ∀ tail, (∀ c ∈ tail, isBlank c = false) →
      wordsOf (cs ++ tail) = front ++ [word ++ tail] := by
  induction cs using List.reverseRecOn with
  | nil => exact absurd rfl nonempty
  | append_singleton init last ih =>
    have lastSolid : isBlank last = false := solid last List.getLast?_concat
    have whole (tail : List Char) (tailSolid : ∀ c ∈ tail, isBlank c = false) :
        wordsOf (last :: tail) = [last :: tail] :=
      wordsOf_of_solid (List.cons_ne_nil last tail) (List.forall_mem_cons.2 ⟨lastSolid, tailSolid⟩)
    simp only [List.append_assoc, List.singleton_append]
    rcases List.eq_nil_or_concat init with rfl | ⟨before, previous, rfl⟩
    · exact ⟨[], [last], whole⟩
    -- The last word begins with the last character, or further in front.
    · rw [List.concat_eq_append] at ih ⊢
      cases white : isBlank previous with
      | true =>
        refine ⟨wordsOf before, [last], fun tail tailSolid => ?_⟩
        rw [List.append_assoc, List.singleton_append, wordsOf_append_cons white,
          whole tail tailSolid, List.singleton_append]
      | false =>
        obtain ⟨front, word, parts⟩ := ih (by simp) (by simp [white])
        refine ⟨front, word ++ [last], fun tail tailSolid => ?_⟩
        rw [parts (last :: tail) (List.forall_mem_cons.2 ⟨lastSolid, tailSolid⟩),
          List.append_assoc, List.singleton_append]

theorem intercalate_concat_append {α : Type} (separator : List α) (front : List (List α))
    (last tail : List α) :
    separator.intercalate (front ++ [last ++ tail]) =
      separator.intercalate (front ++ [last]) ++ tail := by
  induction front with
  | nil => simp
  | cons first rest ih =>
    rw [List.cons_append, List.cons_append, List.intercalate_cons_of_ne_nil (by simp),
      List.intercalate_cons_of_ne_nil (by simp), ih, List.append_assoc _ _ tail]

theorem toList_words (text : String) : (words text).map String.toList = wordsOf text.toList := by
  simp [words, Function.comp_def]

theorem fold_append_solid {text tail : String} (nonempty : text ≠ "")
    (solid : ∀ c, text.toList.getLast? = some c → isBlank c = false)
    (tailSolid : ∀ c ∈ tail.toList, isBlank c = false) : fold (text ++ tail) = fold text ++ tail := by
  obtain ⟨front, word, parts⟩ := exists_lastWord (mt String.toList_eq_nil_iff.1 nonempty) solid
  have alone := parts [] (by simp)
  rw [List.append_nil, List.append_nil] at alone
  apply String.toList_injective
  rw [String.toList_append, toList_fold, toList_fold, toList_words, toList_words,
    String.toList_append, parts tail.toList tailSolid, alone, intercalate_concat_append]

theorem exists_solid {text : String} (nonempty : text ≠ "") (same : trim text = text) :
    ∃ c ∈ text.toList, isBlank c = false := by
  obtain ⟨c, rest, chars⟩ := List.exists_cons_of_ne_nil (mt String.toList_eq_nil_iff.1 nonempty)
  have solid := (solid_ends_trim text).1 c
  rw [same, chars] at solid
  exact ⟨c, chars ▸ List.mem_cons_self, solid rfl⟩

theorem fold_ne_empty {text : String} (nonempty : text ≠ "") (same : trim text = text) :
    fold text ≠ "" := by
  obtain ⟨c, member, solid⟩ := exists_solid nonempty same
  exact mt String.toList_eq_nil_iff.2 (List.ne_nil_of_mem (mem_fold_of_solid member solid))

theorem fold_append_comma {text rest : String} (nonempty : text ≠ "") (same : trim text = text)
    (later : words rest ≠ []) : fold (text ++ ", " ++ rest) = fold text ++ ", " ++ fold rest := by
  have solid := (solid_ends_trim text).2
  rw [same] at solid
  have first : words (text ++ ",") ≠ [] :=
    words_ne_nil (c := ',') (by simp [String.toList_append]) (by decide)
  have comma : ∀ c ∈ ",".toList, isBlank c = false := by
    simpa using show isBlank ',' = false by decide
  have apart (text : String) : text ++ ", " = text ++ "," ++ " " := by
    rw [String.append_assoc]
    rfl
  calc fold (text ++ ", " ++ rest)
      = " ".intercalate (words (text ++ ",") ++ words rest) := by
        rw [fold, apart, words_append_run (by decide) (by decide)]
    _ = fold (text ++ ",") ++ " " ++ fold rest :=
        String.intercalate_append_of_ne_nil first later
    _ = fold text ++ ", " ++ fold rest := by
        rw [fold_append_solid nonempty solid comma, apart]

/-- Texts that are not empty, with no white space at their ends, are folded each on its own where a
comma and a space are between them. -/
theorem fold_intercalate {texts : List String}
    (trimmed : ∀ text ∈ texts, text ≠ "" ∧ trim text = text) :
    fold (", ".intercalate texts) = ", ".intercalate (texts.map fold) := by
  induction texts with
  | nil => rfl
  | cons text rest ih =>
    rw [List.forall_mem_cons] at trimmed
    cases rest with
    | nil => simp
    | cons next rest =>
      obtain ⟨c, member, solid⟩ := exists_solid (trimmed.2 next List.mem_cons_self).1
        (trimmed.2 next List.mem_cons_self).2
      have inside : c ∈ (", ".intercalate (next :: rest)).toList := by
        rw [String.toList_intercalate]
        exact (infix_intercalate _ List.mem_cons_self).subset member
      rw [String.intercalate_cons_cons, fold_append_comma trimmed.1.1 trimmed.1.2
        (words_ne_nil inside solid), ih trimmed.2]
      exact String.intercalate_cons_cons.symm

end SignedRequest.Text
