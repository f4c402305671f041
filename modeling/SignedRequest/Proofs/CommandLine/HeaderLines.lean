import SignedRequest.Header
import SignedRequest.Proofs.Text.Pieces

/-!
Header lines on the command line. A line is cut at a colon with a space behind it and its values at
commas with spaces behind them; so the values that a request is built with have neither, and a line
with such a value is read as it was written.
-/

namespace SignedRequest.CommandLine

/-- A value as it is left of a header line. -/
structure Settled (text : String) : Prop where
  unbroken : ¬[':', ' '] <:+: text.toList
  single : ¬[',', ' '] <:+: text.toList
  trimmed : Text.trim text = text
  filled : text ≠ ""

def settle (text : String) : List String :=
  ((Text.pieces ", " text).map Text.trim).filter fun value => !value.isEmpty

theorem pieces_comma (text : String) :
    Text.pieces ", " text = (Text.piecesOf ',' [' '] text.toList).map String.ofList := rfl

theorem pieces_colon (text : String) :
    Text.pieces ": " text = (Text.piecesOf ':' [' '] text.toList).map String.ofList := rfl

theorem Settled.settle_eq {text : String} (settled : Settled text) : settle text = [text] := by
  simp [settle, pieces_comma, Text.piecesOf_of_not_pair_infix settled.single, settled.trimmed,
    settled.filled]

theorem head?_settle {text front : String} {back : List Char}
    (parts : text.toList = front.toList ++ ',' :: ' ' :: back)
    (alone : ¬[',', ' '] <:+: front.toList) (kept : Text.trim front ≠ "") :
    (settle text).head? = some (Text.trim front) := by
  rw [settle, pieces_comma, parts, Text.piecesOf_append_cons_cons (by decide) alone, List.map_cons,
    List.map_cons, String.ofList_toList, List.filter_cons, if_pos (by simpa using kept),
    List.head?_cons]

theorem settled_of_mem_settle {text value : String} (unbroken : ¬[':', ' '] <:+: text.toList)
    (member : value ∈ settle text) : Settled value ∧ value.toList <:+: text.toList := by
  obtain ⟨trimmed, filled⟩ := List.mem_filter.1 member
  obtain ⟨_, among, rfl⟩ := List.mem_map.1 trimmed
  rw [pieces_comma] at among
  obtain ⟨piece, cut, rfl⟩ := List.mem_map.1 among
  have inside := Text.trim_infix (String.ofList piece)
  rw [String.toList_ofList] at inside
  have within := inside.trans (Text.infix_of_mem_piecesOf cut)
  exact ⟨
    { unbroken := fun found => unbroken (found.trans within)
      single := fun found => Text.not_pair_infix_of_mem_piecesOf cut (found.trans inside)
      trimmed := Text.trim_trim _
      filled := by simpa using filled }, within⟩

section
variable {name text : String} (named : ¬[':', ' '] <:+: name.toList)
include named

theorem pieces_line :
    Text.pieces ": " (name ++ ": " ++ text) = name :: Text.pieces ": " text := by
  have chars : (name ++ ": " ++ text).toList = name.toList ++ ':' :: ' ' :: text.toList := by
    simp [String.toList_append]
  rw [pieces_colon, chars, Text.piecesOf_append_cons_cons (by decide) named, List.map_cons,
    String.ofList_toList, pieces_colon]

theorem ofLine?_of_unbroken (filled : Text.isAllBlank name = false)
    (unbroken : ¬[':', ' '] <:+: text.toList) :
    Header.ofLine? (name ++ ": " ++ text) = some ⟨⟨name⟩, settle text⟩ := by
  have alone : Text.pieces ": " text = [text] := by
    rw [pieces_colon, Text.piecesOf_of_not_pair_infix unbroken]
    simp
  simp only [Header.ofLine?, pieces_line named, alone, filled]
  rfl

theorem unbroken_of_ofLine? {header : Header}
    (read : Header.ofLine? (name ++ ": " ++ text) = some header) :
    ¬[':', ' '] <:+: text.toList := by
  intro broken
  obtain ⟨front, back, parts, before⟩ := Text.exists_first_pair broken
  have two : ∃ first second rest, Text.pieces ": " text = first :: second :: rest := by
    rw [pieces_colon, parts, Text.piecesOf_append_cons_cons (by decide) before]
    cases later : Text.piecesOf ':' [' '] back with
    | nil =>
      have whole := Text.intercalate_piecesOf (a := ':') (b := ' ') back
      rw [later] at whole
      subst whole
      simp [Text.piecesOf] at later
    | cons second rest => exact ⟨_, _, _, rfl⟩
  obtain ⟨first, second, rest, cut⟩ := two
  simp [Header.ofLine?, pieces_line named, cut] at read

end

theorem settled_of_ofLine? {line : String} {header : Header}
    (read : Header.ofLine? line = some header) : ∀ value ∈ header.values, Settled value := by
  unfold Header.ofLine? at read
  split at read
  · rename_i name text cut
    split at read
    · simp at read
    · obtain rfl := Option.some.inj read
      have among : text ∈ Text.pieces ": " line := by simp [cut]
      rw [pieces_colon] at among
      obtain ⟨cs, piece, rfl⟩ := List.mem_map.1 among
      have unbroken : ¬[':', ' '] <:+: (String.ofList cs).toList := by
        rw [String.toList_ofList]
        exact Text.not_pair_infix_of_mem_piecesOf piece
      exact fun value member => (settled_of_mem_settle unbroken member).1
  · simp at read

end SignedRequest.CommandLine
