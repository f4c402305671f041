import SignedRequest.Proofs.SigningString.Lines

/-!
Texts that are signed with a nonce and texts that are signed without one. The line of the nonce is
no different from that of a header named `nonce`, and a request target may go on with it behind a
line feed. Without either of these no text that has a nonce is one that has none; with either of
them, what is signed with a nonce is signed without it as well.
-/

namespace SignedRequest.SigningString

def nonceName : HeaderName := ⟨"nonce"⟩

theorem key_nonceName : nonceName.key = "nonce" := by decide

theorem lower_nonceName : nonceName.lower = "nonce" := by decide

/-- A request can say what the line of a nonce says: in a header of that name, or behind a line feed
of its target. -/
def CanTellNonce (request : Request) (names : List HeaderName) : Prop :=
  (nonceName.Occurs names ∧ request.hasField "nonce" = true) ∨
    (HeaderName.requestTarget.Occurs names ∧ '\n' ∈ (requestTarget request).toList)

variable {request other again : Request} {names others : List HeaderName} {nonce : String}
  (time : Instant) (lifetime : Duration)

theorem exists_nonce_piece (request : Request) (names : List HeaderName) (nonempty : nonce ≠ "") :
    ∃ piece ∈ Text.pieces "\n" (compose request names time lifetime (some nonce)), ∃ rest,
      piece.toList = "nonce: ".toList ++ rest := by
  have unbroken : '\n' ∉ "nonce: ".toList := by decide
  obtain ⟨rest, later, cut⟩ := Text.splitOn_append unbroken (Text.trim nonce).toList
  have line : nonceLines (some nonce) = ["nonce: " ++ Text.trim nonce] := by
    simp [nonceLines, Option.filter_some, nonempty]
  have last : ("nonce: ".toList ++ rest) ∈
      (compose request names time lifetime (some nonce)).toList.splitOn '\n' := by
    rw [compose, lines_eq, line]
    by_cases alone : (names.filter (contributes request)).map (headerLine request time lifetime) = []
    · rw [alone, List.nil_append, String.intercalate_singleton, String.toList_append, cut]
      exact List.mem_cons_self
    · rw [String.intercalate_append_of_ne_nil alone (by simp), String.intercalate_singleton]
      simp only [String.toList_append]
      rw [List.append_assoc, show "\n".toList = ['\n'] from rfl, List.singleton_append,
        List.splitOn_append_cons_self, cut]
      simp
  refine ⟨String.ofList ("nonce: ".toList ++ rest), ?_, rest, String.toList_ofList⟩
  rw [show "\n" = String.singleton '\n' from rfl, Text.pieces_singleton]
  exact List.mem_map_of_mem last

theorem nonce_of_headerLine {name : HeaderName} (carried : contributes request name = true)
    {rest : List Char}
    (begins : (headerLine request time lifetime name).toList = "nonce: ".toList ++ rest) :
    name.key = "nonce" := by
  have colons : name.lower.toList.count ':' = "nonce".toList.count ':' := by
    rw [List.count_eq_zero.2 (not_mem_lower ':' (by decide) carried)]
    decide
  have parts : name.lower.toList ++ ':' :: ' ' :: (said request time lifetime name).toList =
      "nonce".toList ++ ':' :: ' ' :: rest := by
    simpa [headerLine, String.toList_append] using begins
  rw [← lower_of_contributes carried]
  exact String.toList_injective (Text.append_cons_inj colons parts).1

theorem hasField_of_nonce {name : HeaderName} (carried : contributes request name = true)
    (key : name.key = "nonce") : request.hasField "nonce" = true := by
  have plain {special : HeaderName} (different : nonceName.key ≠ special.key) :
      (name == special) = false := by
    apply HeaderName.beq_eq_false
    rwa [key, ← key_nonceName]
  rw [contributes, plain (by decide), plain (by decide),
    plain (by decide)] at carried
  have same := request.hasField_congr (key.trans key_nonceName.symm)
  exact same.symm.trans carried

/-- A text with a nonce is none without one, unless the request of the latter can tell a nonce. -/
theorem canTellNonce_of_compose_eq {again : Instant} {lasting : Duration} (nonempty : nonce ≠ "")
    (same : compose request names time lifetime (some nonce) =
      compose other others again lasting none) :
    CanTellNonce other others := by
  by_cases whole : HeaderName.requestTarget.Occurs others → '\n' ∉ (requestTarget other).toList
  -- The pieces of the text without a nonce are its lines, and that of the nonce is one of them.
  · left
    obtain ⟨piece, member, rest, begins⟩ :=
      exists_nonce_piece time lifetime request names nonempty
    rw [same] at member
    by_cases none : lines other others again lasting none = []
    · rw [compose, none, String.intercalate_nil] at member
      obtain rfl : piece = "" := by simpa [Text.pieces, Text.piecesOf] using member
      simp at begins
    · rw [pieces_compose again lasting (by simp) none whole, lines_eq] at member
      obtain ⟨name, kept, rfl⟩ : ∃ name ∈ others.filter (contributes other),
          headerLine other again lasting name = piece := by
        simpa [nonceLines] using member
      obtain ⟨listed, carried⟩ := List.mem_filter.1 kept
      have key := nonce_of_headerLine again lasting carried begins
      exact ⟨⟨name, listed, key.trans key_nonceName.symm⟩, hasField_of_nonce carried key⟩
  · right
    simpa using whole

theorem line?_congr_of_values {name : HeaderName} (plain : (name == .requestTarget) = false)
    (values : again.fieldTexts name.text = request.fieldTexts name.text) :
    line? again time lifetime name = line? request time lifetime name := by
  have carried : contributes again name = contributes request name := by
    unfold contributes
    rw [again.hasField_eq, request.hasField_eq, values]
  have content : said again time lifetime name = said request time lifetime name := by
    unfold said
    simp only [plain, Bool.false_eq_true, ↓reduceIte, foldedTexts, values]
    by_cases dated : (name == .date) = true
    · have key : Text.asciiLower name.text = Text.asciiLower "date" :=
        (HeaderName.beq_iff name .date).1 dated
      rw [again.fieldTexts_congr key, request.fieldTexts_congr key] at values
      rw [Request.firstFieldText?, Request.firstFieldText?, values]
    · simp only [dated, Bool.false_eq_true, ↓reduceIte]
  rw [line?_eq, line?_eq, carried, headerLine, headerLine, content]

/-- Another request tells the nonce of a request under another list of names: in a header of its
own, which is listed last, or by a target, listed last, that goes on with the line of the nonce. -/
inductive Retells (request : Request) (nonce : String) (again : Request) :
    List HeaderName → List HeaderName → Prop where
  | header {names : List HeaderName} (agrees : Agrees again request names)
      (carried : again.hasField "nonce" = true)
      (told : ", ".intercalate (foldedTexts again nonceName) = Text.trim nonce) :
      Retells request nonce again names (names ++ [nonceName])
  | target {front : List HeaderName} (unlisted : ¬HeaderName.requestTarget.Occurs front)
      (values : ∀ name ∈ front, again.fieldTexts name.text = request.fieldTexts name.text)
      (told : requestTarget again = requestTarget request ++ "\n" ++ ("nonce: " ++ Text.trim nonce)) :
      Retells request nonce again (front ++ [.requestTarget]) (front ++ [.requestTarget])

theorem line?_nonceName (carried : again.hasField "nonce" = true) :
    line? again time lifetime nonceName =
      some ("nonce: " ++ ", ".intercalate (foldedTexts again nonceName)) := by
  have kept : contributes again nonceName = true := by
    simp [contributes, nonceName, carried]
  rw [line?_eq, if_pos kept, headerLine, lower_nonceName, said,
    HeaderName.beq_eq_false (by decide), HeaderName.beq_eq_false (by decide),
    HeaderName.beq_eq_false (by decide), HeaderName.beq_eq_false (by decide)]
  rfl

theorem compose_eq_of_retells (nonempty : nonce ≠ "")
    (retells : Retells request nonce again names others) :
    compose again others time lifetime none = compose request names time lifetime (some nonce) := by
  cases retells with
  | header agrees carried told =>
    simp only [compose, lines, nonceLine?_some nonempty, List.filterMap_append,
      filterMap_line?_congr time agrees, List.filterMap_cons, line?_nonceName time lifetime carried,
      told]
    simp [nonceLine?]
  | @target front unlisted values told =>
    have same : front.filterMap (line? again time lifetime) =
        front.filterMap (line? request time lifetime) := by
      apply List.filterMap_congr
      intro name member
      exact line?_congr_of_values time lifetime
        (HeaderName.beq_eq_false fun key => unlisted ⟨name, member, key⟩) (values name member)
    have lower : HeaderName.requestTarget.lower = "(request-target)" := by decide
    have last (request : Request) : line? request time lifetime .requestTarget =
        some ("(request-target): " ++ requestTarget request) := by
      rw [line?, if_pos (by decide), lower]
      rfl
    have joined := Text.intercalate_concat "\n" (front.filterMap (line? request time lifetime))
      ("(request-target): " ++ requestTarget request) ("nonce: " ++ Text.trim nonce)
    simp only [compose, lines, nonceLine?_some nonempty, List.filterMap_append, same,
      List.filterMap_cons, List.filterMap_nil, last, told, Option.toList_some, List.append_assoc,
      List.cons_append, List.nil_append, joined]
    simp [nonceLine?, String.append_assoc]

namespace Retells

variable (retells : Retells request nonce again names others)
include retells

theorem values : ∀ name ∈ names, again.fieldTexts name.text = request.fieldTexts name.text := by
  cases retells with
  | header agrees _ _ => exact agrees.values
  | target _ values _ =>
    have none (request : Request) : request.fieldTexts HeaderName.requestTarget.text = [] := by
      have missing : request.hasField HeaderName.requestTarget.text = false :=
        hasField_of_isPseudo request (by decide)
      rwa [request.hasField_eq, Bool.not_eq_false', List.isEmpty_iff] at missing
    intro name member
    rcases List.mem_append.1 member with before | last
    · exact values name before
    · rw [List.mem_singleton.1 last, none, none]

theorem mem_others {name : HeaderName} (member : name ∈ names) : name ∈ others := by
  cases retells with
  | header => exact List.mem_append_left _ member
  | target => exact member

theorem mem_or_nonce {name : HeaderName} (member : name ∈ others) :
    name ∈ names ∨ name = nonceName ∧ again.hasField "nonce" = true := by
  cases retells with
  | header _ carried _ =>
    rcases List.mem_append.1 member with before | last
    · exact .inl before
    · exact .inr ⟨List.mem_singleton.1 last, carried⟩
  | target => exact .inl member

theorem occurs {name : HeaderName} (different : name.key ≠ "nonce") (occurs : name.Occurs others) :
    name.Occurs names := by
  obtain ⟨found, member, key⟩ := occurs
  rcases retells.mem_or_nonce member with listed | ⟨rfl, _⟩
  · exact ⟨found, listed, key⟩
  · exact absurd (key.symm.trans key_nonceName) different

theorem fieldTexts_of_occurs {name : HeaderName} (different : name.key ≠ "nonce")
    (occurs : name.Occurs others) : again.fieldTexts name.text = request.fieldTexts name.text := by
  obtain ⟨found, member, key⟩ := retells.occurs different occurs
  have same := retells.values found member
  rwa [again.fieldTexts_congr key, request.fieldTexts_congr key] at same

end Retells

end SignedRequest.SigningString
