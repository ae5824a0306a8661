import JarLauncher.Text.Utf8.Lossy

/-!
What is read as a text is what writes it. Only the shortest form of a character is read, so that no other bytes make
the same text.
-/

namespace JarLauncher.Utf8

theorem prefix_takeWhile_take (count : Nat) (bytes : Bytes) :
    (bytes.take count).takeWhile isTail <+: bytes :=
  (List.takeWhile_prefix isTail).trans (List.take_prefix count bytes)

theorem prefix_tail (lead : UInt8) (rest : Bytes) : tail lead rest <+: rest := by
  unfold tail
  split
  · split
    · exact (List.prefix_cons_inj _).mpr (prefix_takeWhile_take _ _)
    · exact List.nil_prefix
  · exact List.nil_prefix

theorem ofNat_eq_of_toNat {number : Nat} (byte : UInt8) (same : number = byte.toNat) : UInt8.ofNat number = byte := by
  rw [same, UInt8.ofNat_toNat]

section

variable {lead second third fourth : UInt8}

theorem encodeChar_assemble_one (small : lead.toNat < 0x80) :
    String.utf8EncodeChar (assemble lead []) = [lead] := by
  have number : (assemble lead []).val.toNat = lead.toNat := by
    rw [assemble, leadBits_eq, if_pos small, List.foldl_nil]
    exact toNat_ofNat (.inl (by omega))
  unfold String.utf8EncodeChar
  rw [number]
  dsimp only
  rw [if_pos (by omega), UInt8.ofNat_toNat]

theorem encodeChar_assemble_two (opens : 0xC2 ≤ lead.toNat ∧ lead.toNat < 0xE0)
    (ends : 0x80 ≤ second.toNat ∧ second.toNat < 0xC0) :
    String.utf8EncodeChar (assemble lead [second]) = [lead, second] := by
  have number : (assemble lead [second]).val.toNat = (lead.toNat - 0xC0) * 64 + (second.toNat - 0x80) := by
    rw [assemble, leadBits_eq, if_neg (by omega), if_pos (by omega)]
    exact toNat_ofNat (.inl (by simp only [List.foldl_cons, List.foldl_nil]; omega))
  unfold String.utf8EncodeChar
  rw [number]
  dsimp only
  rw [if_neg (by omega), if_pos (by omega), ofNat_eq_of_toNat lead (by omega), ofNat_eq_of_toNat second (by omega)]

/-- The least second byte after `E0` and the largest after `ED` keep longer forms and halves of pairs out. -/
theorem encodeChar_assemble_three (opens : 0xE0 ≤ lead.toNat ∧ lead.toNat < 0xF0)
    (goesOn : 0x80 ≤ second.toNat ∧ second.toNat < 0xC0) (low : lead.toNat = 0xE0 → 0xA0 ≤ second.toNat)
    (high : lead.toNat = 0xED → second.toNat < 0xA0) (ends : 0x80 ≤ third.toNat ∧ third.toNat < 0xC0) :
    String.utf8EncodeChar (assemble lead [second, third]) = [lead, second, third] := by
  have number : (assemble lead [second, third]).val.toNat =
      ((lead.toNat - 0xE0) * 64 + (second.toNat - 0x80)) * 64 + (third.toNat - 0x80) := by
    rw [assemble, leadBits_eq, if_neg (by omega), if_neg (by omega), if_pos (by omega)]
    exact toNat_ofNat (by simp only [List.foldl_cons, List.foldl_nil]; omega)
  unfold String.utf8EncodeChar
  rw [number]
  dsimp only
  rw [if_neg (by omega), if_neg (by omega), if_pos (by omega), ofNat_eq_of_toNat lead (by omega),
    ofNat_eq_of_toNat second (by omega), ofNat_eq_of_toNat third (by omega)]

theorem encodeChar_assemble_four (opens : 0xF0 ≤ lead.toNat ∧ lead.toNat < 0xF5)
    (goesOn : 0x80 ≤ second.toNat ∧ second.toNat < 0xC0) (low : lead.toNat = 0xF0 → 0x90 ≤ second.toNat)
    (high : lead.toNat = 0xF4 → second.toNat < 0x90) (further : 0x80 ≤ third.toNat ∧ third.toNat < 0xC0)
    (ends : 0x80 ≤ fourth.toNat ∧ fourth.toNat < 0xC0) :
    String.utf8EncodeChar (assemble lead [second, third, fourth]) = [lead, second, third, fourth] := by
  have number : (assemble lead [second, third, fourth]).val.toNat =
      (((lead.toNat - 0xF0) * 64 + (second.toNat - 0x80)) * 64 + (third.toNat - 0x80)) * 64 +
        (fourth.toNat - 0x80) := by
    rw [assemble, leadBits_eq, if_neg (by omega), if_neg (by omega), if_neg (by omega)]
    exact toNat_ofNat (by simp only [List.foldl_cons, List.foldl_nil]; omega)
  unfold String.utf8EncodeChar
  rw [number]
  dsimp only
  rw [if_neg (by omega), if_neg (by omega), if_neg (by omega), ofNat_eq_of_toNat lead (by omega),
    ofNat_eq_of_toNat second (by omega), ofNat_eq_of_toNat third (by omega), ofNat_eq_of_toNat fourth (by omega)]

end

/-- The bytes that a character is read from are the bytes that write it. -/
theorem encodeChar_assemble {lead : UInt8} {rest : Bytes}
    (complete : tailCount lead = some (tail lead rest).length) :
    String.utf8EncodeChar (assemble lead (tail lead rest)) = lead :: tail lead rest := by
  rw [tailCount_eq] at complete
  rcases whole : tail lead rest with _ | ⟨second, found⟩
  · rw [whole] at complete
    exact encodeChar_assemble_one (by grind)
  obtain ⟨proper, tails⟩ := tail_eq_cons whole
  simp only [isTail_iff] at tails
  rw [isSecond_iff] at proper
  simp only [whole, List.length_cons] at complete
  -- the first byte decides how many follow
  rcases found with _ | ⟨third, _ | ⟨fourth, _ | ⟨fifth, others⟩⟩⟩
  · simp only [List.length_nil] at complete
    exact encodeChar_assemble_two (by grind) (by grind)
  · simp only [List.length_cons, List.length_nil] at complete
    exact encodeChar_assemble_three (by grind) (by grind) (by grind) (by grind) (tails third (by simp))
  · simp only [List.length_cons, List.length_nil] at complete
    exact encodeChar_assemble_four (by grind) (by grind) (by grind) (by grind) (tails third (by simp))
      (tails fourth (by simp))
  · grind

theorem eq_encode_of_characters {bytes : Bytes} :
    ∀ {index : Nat} {chars : List Char}, characters index (pieces bytes) = .ok chars →
      bytes = chars.flatMap String.utf8EncodeChar := by
  induction bytes using pieces.induct with
  | case1 =>
      intro index chars read
      rw [pieces] at read
      cases read
      rfl
  | case2 lead rest ih =>
      intro index chars read
      rw [pieces_cons, front] at read
      by_cases complete : tailCount lead = some (tail lead rest).length
      · rw [if_pos complete, characters] at read
        cases later : characters (index + (assemble lead (tail lead rest)).utf8Size)
            (pieces (rest.drop (tail lead rest).length)) with
        | error fault =>
            rw [later] at read
            cases read
        | ok others =>
            rw [later] at read
            cases read
            rw [List.flatMap_cons, encodeChar_assemble complete, List.cons_append, ← ih later,
              List.prefix_iff_eq_append.mp (prefix_tail lead rest)]
      · rw [if_neg complete, characters] at read
        cases read

/-- A text is read from the bytes that write it, and from no others. -/
theorem decode_eq_ok {bytes : Bytes} {text : String} : decode bytes = .ok text ↔ bytes = encode text := by
  constructor
  · intro read
    unfold decode at read
    cases found : characters 0 (pieces bytes) with
    | error fault =>
        rw [found] at read
        cases read
    | ok chars =>
        rw [found] at read
        cases read
        rw [eq_encode_of_characters found, encode, String.toList_ofList]
  · rintro rfl
    exact decode_encode text

theorem decode?_eq_none {bytes : Bytes} : decode? bytes = none ↔ ∀ text, bytes ≠ encode text := by
  constructor
  · rintro unread text rfl
    rw [decode?_encode] at unread
    cases unread
  · intro broken
    cases read : decode bytes with
    | error fault => rw [decode?, read, Except.toOption]
    | ok text => exact absurd (decode_eq_ok.mp read) (broken text)

end JarLauncher.Utf8
