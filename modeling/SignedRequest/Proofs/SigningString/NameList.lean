import SignedRequest.Proofs.SigningString.Tampering

/-!
The list of names can be read off the text that is signed. A line begins with the name that it is
about, and the request tells the rest of it, however many line feeds that has; so under two lists a
request has the same text exactly if they name the same headers, those that have no line left out,
in the same order and equally often.
-/

namespace SignedRequest.SigningString

variable {request : Request} {name other : HeaderName} {names others : List HeaderName}
  (time : Instant) (lifetime : Duration)

theorem headerLine_key (carried : contributes request name = true) :
    headerLine request time lifetime ⟨name.key⟩ = headerLine request time lifetime name := by
  have ascii := (ascii_of_contributes carried).1
  have lower : (HeaderName.mk name.key).lower = name.lower := by
    rw [← HeaderName.lower_eq_key ascii, HeaderName.lower_lower ascii]
  have same := line?_of_key time request (Text.asciiLower_asciiLower name.text) lower lifetime
  rw [line?_eq request time lifetime name, if_pos carried, line?_eq] at same
  split at same
  · exact Option.some.inj same
  · simp at same

/-- Lines begin alike only if their names have the same key, and then what follows them is the
same, too. -/
theorem key_eq_of_headerLine_append (carried : contributes request name = true)
    (carriedOther : contributes request other = true) {back rest : List Char}
    (same : (headerLine request time lifetime name).toList ++ back =
      (headerLine request time lifetime other).toList ++ rest) :
    name.key = other.key ∧ back = rest := by
  have unmarked {name : HeaderName} (carried : contributes request name = true) :
      name.key.toList.count ':' = 0 := by
    rw [← lower_of_contributes carried]
    exact List.count_eq_zero.2 (not_mem_lower ':' (by decide) carried)
  have parts (name : HeaderName) (carried : contributes request name = true) (back : List Char) :
      (headerLine request time lifetime name).toList ++ back =
        name.key.toList ++ ':' :: (' ' :: (said request time lifetime name).toList ++ back) := by
    simp [headerLine, lower_of_contributes carried, String.toList_append]
  have chars := same
  rw [parts name carried, parts other carriedOther] at chars
  obtain ⟨keys, -⟩ :=
    Text.append_cons_inj ((unmarked carried).trans (unmarked carriedOther).symm) chars
  have key := String.toList_injective keys
  rw [← headerLine_key time lifetime carried, ← headerLine_key time lifetime carriedOther,
    key] at same
  exact ⟨key, List.append_cancel_left same⟩

theorem map_key_eq_of_flatMap_eq (carried : ∀ name ∈ names, contributes request name = true)
    (carriedOthers : ∀ name ∈ others, contributes request name = true)
    (same : (names.flatMap fun name => (headerLine request time lifetime name).toList ++ ['\n']) =
      others.flatMap fun name => (headerLine request time lifetime name).toList ++ ['\n']) :
    names.map HeaderName.key = others.map HeaderName.key := by
  induction names generalizing others with
  | nil =>
    cases others with
    | nil => rfl
    | cons other others => simp at same
  | cons name names ih =>
    cases others with
    | nil => simp at same
    | cons other others =>
      rw [List.forall_mem_cons] at carried carriedOthers
      rw [List.flatMap_cons, List.flatMap_cons, List.append_assoc, List.append_assoc] at same
      obtain ⟨key, tails⟩ :=
        key_eq_of_headerLine_append time lifetime carried.1 carriedOthers.1 same
      rw [List.map_cons, List.map_cons, key,
        ih carried.2 carriedOthers.2 (List.append_cancel_left tails)]

theorem map_headerLine_of_map_key (carried : ∀ name ∈ names, contributes request name = true) :
    names.map (headerLine request time lifetime) =
      (names.map HeaderName.key).map fun key => headerLine request time lifetime ⟨key⟩ := by
  rw [List.map_map]
  exact List.map_congr_left fun name member =>
    (headerLine_key time lifetime (carried name member)).symm

theorem mem_filter_contributes {names : List HeaderName} :
    ∀ name ∈ names.filter (contributes request), contributes request name = true :=
  fun _ member => (List.mem_filter.1 member).2

theorem toList_compose_append {nonce : Option String}
    (some : compose request names time lifetime nonce ≠ "") :
    (compose request names time lifetime nonce).toList ++ ['\n'] =
      ((names.filter (contributes request)).flatMap fun name =>
        (headerLine request time lifetime name).toList ++ ['\n']) ++
          (nonceLines nonce).flatMap fun line => line.toList ++ ['\n'] := by
  have lines : (names.filter (contributes request)).map (fun name =>
      (headerLine request time lifetime name).toList) ++ (nonceLines nonce).map String.toList ≠
        [] := by
    rw [ne_eq, compose_eq_empty_iff, lines_eq] at some
    simpa using some
  rw [toList_compose, Text.intercalate_append_singleton '\n' lines, List.flatMap_append,
    List.flatMap_map, List.flatMap_map]

theorem filter_eq_nil_of_compose_eq_empty {nonce : Option String}
    (empty : compose request names time lifetime nonce = "") :
    names.filter (contributes request) = [] := by
  rw [compose_eq_empty_iff, lines_eq, List.append_eq_nil_iff, List.map_eq_nil_iff] at empty
  exact empty.1

theorem isSome_line? (name : HeaderName) :
    (line? request time lifetime name).isSome = contributes request name := by
  rw [line?_eq]
  cases contributes request name <;> rfl

/-- A name has a line exactly if it is computed or that of a header of the request. Under two lists
of names, at the same times and with the same nonce, a request has the same text exactly if these
names are the same in both lists, in order and number, up to the case of their letters. -/
theorem compose_eq_iff_names (request : Request) (names others : List HeaderName) (time : Instant)
    (lifetime : Duration) (nonce : Option String) :
    (∀ name, (line? request time lifetime name).isSome = contributes request name) ∧
      (compose request names time lifetime nonce = compose request others time lifetime nonce ↔
        (names.filter (contributes request)).map HeaderName.key =
          (others.filter (contributes request)).map HeaderName.key) := by
  refine ⟨isSome_line? time lifetime, ?_⟩
  constructor
  · intro same
    by_cases empty : compose request names time lifetime nonce = ""
    · rw [filter_eq_nil_of_compose_eq_empty time lifetime empty,
        filter_eq_nil_of_compose_eq_empty time lifetime (same ▸ empty)]
    · have chars := toList_compose_append time lifetime empty
      rw [same, toList_compose_append time lifetime (same ▸ empty)] at chars
      -- The nonce has its line at the end of both texts.
      exact map_key_eq_of_flatMap_eq time lifetime mem_filter_contributes mem_filter_contributes
        (List.append_cancel_right chars).symm
  · intro keys
    rw [compose, compose, lines_eq, lines_eq,
      map_headerLine_of_map_key time lifetime mem_filter_contributes, keys,
      ← map_headerLine_of_map_key time lifetime mem_filter_contributes]

/-- Names without a header and the case of letters make no difference; the order of names does, and
so does a name that is listed twice. -/
theorem noted_reordered :
    let request := noted "/" "one" (by decide +kernel)
    let text := fun names => compose request names .epoch .zero (some "n")
    text [.requestTarget, ⟨"X-Note"⟩] =
        text [⟨"(Request-Target)"⟩, ⟨"x-absent"⟩, ⟨"x-note"⟩] ∧
      text [.requestTarget, ⟨"x-note"⟩] ≠ text [⟨"x-note"⟩, .requestTarget] ∧
      text [.requestTarget, ⟨"x-note"⟩] ≠ text [.requestTarget, ⟨"x-note"⟩, ⟨"x-note"⟩] := by
  intro request text
  have bound (names others : List HeaderName) :=
    (compose_eq_iff_names request names others .epoch .zero (some "n")).2
  refine ⟨(bound _ _).2 (by decide +kernel), ?_, ?_⟩
  · intro same
    exact absurd ((bound _ _).1 same) (by decide +kernel)
  · intro same
    exact absurd ((bound _ _).1 same) (by decide +kernel)

end SignedRequest.SigningString
