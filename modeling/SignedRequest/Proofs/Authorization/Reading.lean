import SignedRequest.Authorization.Parameters
import SignedRequest.Authorization.Parse
import SignedRequest.Proofs.Outcome
import SignedRequest.Proofs.Text.Words

/-!
What is read from a parameter string consists of its characters: no token, no parameter and no text
of a signature has a character that the string has not.
-/

namespace SignedRequest.Authorization
open Outcome

theorem mem_of_mem_tokenAt (c : Char) (rest : List Char) :
    ∀ d ∈ (tokenAt c rest).2.1, d ∈ c :: rest := by
  have taken (p : Char → Bool) (d : Char) (inside : d ∈ rest.takeWhile p) : d ∈ c :: rest :=
    List.mem_cons_of_mem c ((List.takeWhile_prefix p).mem inside)
  have run (p : Char → Bool) (d : Char) (inside : d ∈ c :: rest.takeWhile p) : d ∈ c :: rest :=
    (List.mem_cons.1 inside).elim (fun same => same ▸ List.mem_cons_self) (taken p d)
  have single (d : Char) (inside : d ∈ [c]) : d ∈ c :: rest :=
    List.mem_singleton.1 inside ▸ List.mem_cons_self
  unfold tokenAt
  split
  · exact run Char.isAlphanum
  · split
    · exact run Char.isDigit
    · split
      · exact single
      · split
        · exact single
        · split
          · dsimp only
            split
            · exact taken _
            · exact single
          · exact single

theorem mem_of_mem_tokensFrom {offset : Nat} {cs : List Char} {token : Token}
    (member : token ∈ tokensFrom offset cs) : ∀ d ∈ token.text, d ∈ cs := by
  fun_induction tokensFrom offset cs with
  | case1 => simp at member
  | case2 offset c rest blank ih =>
    exact fun d inside => List.mem_cons_of_mem c (ih member d inside)
  | case3 offset c rest solid kind text count same length ih =>
    rcases List.mem_cons.1 member with rfl | later
    · have inside := mem_of_mem_tokenAt c rest
      rw [same] at inside
      exact inside
    · exact fun d inside =>
        List.mem_cons_of_mem c (List.mem_of_mem_drop (ih later d inside))

theorem value_mem_of_mem_parametersOf {stop : Nat} {tokens : List Token} {parameter : Parameter}
    (member : parameter ∈ (parametersOf stop tokens).1) : parameter.value ∈ tokens := by
  fun_induction parametersOf stop tokens
  case case7 key _ equals _ value _ =>
    obtain rfl := List.mem_singleton.1 member
    simp
  case case9 key _ equals _ value _ comma rest _ parameters fault read ih =>
    rcases List.mem_cons.1 member with rfl | later
    · simp
    · rw [read] at ih
      simp [ih later]
  all_goals simp at member

theorem mem_of_mem_parameter {stop offset : Nat} {cs : List Char} {parameter : Parameter}
    (member : parameter ∈ (parametersOf stop (tokensFrom offset cs)).1) :
    ∀ d ∈ parameter.text.toList, d ∈ cs := by
  intro d inside
  rw [Parameter.text, String.toList_ofList] at inside
  exact mem_of_mem_tokensFrom (value_mem_of_mem_parametersOf member) d inside

theorem parse_eq_ok_iff (input : String) (signature : Signature) :
    parse input = .ok signature ↔ ∃ parameters,
      parametersOf input.utf8ByteSize (tokensFrom 0 input.toList) = (parameters, none) ∧
        checkParameters [] parameters = .ok () ∧
        signatureOf input.utf8ByteSize parameters = .ok signature := by
  cases read : parametersOf input.utf8ByteSize (tokensFrom 0 input.toList) with
  | mk parameters fault =>
    simp only [parse, tokens, read, bind_eq_ok_iff]
    constructor
    · rintro ⟨_, checked, made⟩
      cases fault with
      | some offset => simp at made
      | none => exact ⟨parameters, rfl, checked, made⟩
    · rintro ⟨_, same, checked, made⟩
      obtain ⟨rfl, rfl⟩ := Prod.mk.inj same
      exact ⟨(), checked, made⟩

theorem nonce_of_parse {input nonce : String} {signature : Signature}
    (parsed : parse input = .ok signature) (told : signature.nonce = some nonce) :
    nonce ≠ "" ∧ ∀ d ∈ nonce.toList, d ∈ input.toList := by
  obtain ⟨parameters, read, -, made⟩ := (parse_eq_ok_iff input signature).1 parsed
  unfold signatureOf at made
  split at made
  · simp at made
  · simp at made
  · obtain rfl := Except.ok.inj made
    obtain ⟨found, nonempty⟩ := Option.filter_eq_some_iff.1 told
    obtain ⟨parameter, known, rfl⟩ := Option.map_eq_some_iff.1 found
    have member : parameter ∈ (parametersOf input.utf8ByteSize (tokensFrom 0 input.toList)).1 := by
      rw [read]
      exact List.mem_of_find?_eq_some known
    exact ⟨by simpa using nonempty, mem_of_mem_parameter member⟩

theorem mem_of_stripScheme? {value scheme parameters : String}
    (stripped : stripScheme? value scheme = some parameters) :
    ∀ d ∈ parameters.toList, d ∈ value.toList := by
  intro d inside
  unfold stripScheme? at stripped
  obtain ⟨⟨found, rest⟩, cut, same⟩ := Option.bind_eq_some_iff.1 stripped
  dsimp only at same
  split at same
  · obtain rfl := Option.some.inj same
    exact Text.mem_of_mem_trim (Text.mem_of_cut? cut (Text.mem_of_mem_trim inside))
  · simp at same

end SignedRequest.Authorization
