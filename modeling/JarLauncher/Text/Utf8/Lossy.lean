import JarLauncher.Text.Utf8.RoundTrip

/-!
Bytes that need not be text, read with a replacement character for each broken part. An ASCII byte ends whatever
was begun before it, so that the texts before and after it are read by themselves; and an ASCII character is only
ever read from its own byte.
-/

namespace JarLauncher.Utf8

/-- The characters that are shown for bytes. -/
def shownChars (bytes : Bytes) : List Char :=
  (pieces bytes).map Piece.shown

@[simp] theorem toList_decodeLossy (bytes : Bytes) : (decodeLossy bytes).toList = shownChars bytes := by
  simp [decodeLossy, shownChars]

@[simp] theorem shownChars_nil : shownChars [] = [] := by
  simp [shownChars, pieces]

theorem shownChars_cons (lead : UInt8) (rest : Bytes) :
    shownChars (lead :: rest) =
      (front lead rest).shown :: shownChars (rest.drop (tail lead rest).length) := by
  rw [shownChars, pieces_cons]
  rfl

theorem shownChars_encodeChar (char : Char) (rest : Bytes) :
    shownChars (String.utf8EncodeChar char ++ rest) = char :: shownChars rest := by
  rw [shownChars, pieces_encodeChar]
  rfl

/-- What writes a text is read as that text, whatever bytes follow. -/
@[simp] theorem shownChars_encode (text : String) (rest : Bytes) :
    shownChars (encode text ++ rest) = text.toList ++ shownChars rest := by
  unfold encode
  induction text.toList with
  | nil => rfl
  | cons char chars ih =>
      rw [List.flatMap_cons, List.append_assoc, shownChars_encodeChar, ih]
      rfl

section Boundary

variable {byte : UInt8}

theorem isTail_of_ascii (ascii : byte.toNat < 0x80) : isTail byte = false := by
  rw [Bool.eq_false_iff, Ne, isTail_iff]
  omega

theorem isSecond_of_ascii (ascii : byte.toNat < 0x80) (lead : UInt8) : isSecond lead byte = false := by
  rw [Bool.eq_false_iff, Ne, isSecond_iff]
  rintro ⟨low, -⟩
  split at low
  · omega
  split at low <;> omega

/-- No run of tail bytes goes on over an ASCII byte. -/
theorem takeWhile_isTail_append (ascii : byte.toNat < 0x80) (count : Nat) (bytes rest : Bytes) :
    ((bytes ++ byte :: rest).take count).takeWhile isTail = (bytes.take count).takeWhile isTail := by
  induction bytes generalizing count with
  | nil => cases count <;> simp [isTail_of_ascii ascii]
  | cons first bytes ih =>
      cases count with
      | zero => rfl
      | succ count => simp only [List.cons_append, List.take_succ_cons, List.takeWhile_cons, ih]

theorem tail_append (ascii : byte.toNat < 0x80) (lead : UInt8) (bytes rest : Bytes) :
    tail lead (bytes ++ byte :: rest) = tail lead bytes := by
  unfold tail
  rcases tailCount lead with _ | _ | count
  · cases bytes <;> rfl
  · cases bytes <;> rfl
  · cases bytes with
    | nil => simp [isSecond_of_ascii ascii]
    | cons second others => simp [takeWhile_isTail_append ascii]

theorem length_tail_le (lead : UInt8) (bytes : Bytes) : (tail lead bytes).length ≤ bytes.length := by
  unfold tail
  split
  · rename_i count second others _
    split
    · have run : ((others.take count).takeWhile isTail).length ≤ (others.take count).length :=
        (List.takeWhile_sublist isTail).length_le
      have taken : (others.take count).length ≤ others.length := List.length_take_le' count others
      simp only [List.length_cons]
      omega
    · simp
  · simp

/-- An ASCII byte may tell that a character is broken and not just unfinished, which looks the same. -/
theorem shown_front_append (ascii : byte.toNat < 0x80) (lead : UInt8) (bytes rest : Bytes) :
    (front lead (bytes ++ byte :: rest)).shown = (front lead bytes).shown := by
  simp only [front, tail_append ascii]
  split <;> rfl

/-- The texts before and behind an ASCII byte are read by themselves. -/
theorem shownChars_append (ascii : byte.toNat < 0x80) (bytes rest : Bytes) :
    shownChars (bytes ++ byte :: rest) = shownChars bytes ++ shownChars (byte :: rest) := by
  induction bytes using pieces.induct with
  | case1 => simp
  | case2 lead bytes ih =>
      have short := length_tail_le lead bytes
      rw [List.cons_append, shownChars_cons, tail_append ascii, shown_front_append ascii,
        List.drop_append_of_le_length short, ih, shownChars_cons lead bytes, List.cons_append]

theorem encode_cons {char : Char} (ascii : char.toNat < 0x80) (chars : List Char) :
    encode (String.ofList (char :: chars)) = UInt8.ofNat char.toNat :: encode (String.ofList chars) := by
  have single : String.utf8EncodeChar char = [UInt8.ofNat char.toNat] := by
    have low : char.val.toNat ≤ 0x7F := Nat.le_of_lt_succ ascii
    rw [String.utf8EncodeChar, if_pos low]
    rfl
  simp [encode, single]

/-- A text with an ASCII character at its start is read wherever it is written. -/
theorem shownChars_append_encode {char : Char} (ascii : char.toNat < 0x80) (chars : List Char)
    (bytes rest : Bytes) :
    shownChars (bytes ++ (encode (String.ofList (char :: chars)) ++ rest)) =
      shownChars bytes ++ (char :: chars ++ shownChars rest) := by
  have small : (UInt8.ofNat char.toNat).toNat < 0x80 := by
    rw [UInt8.toNat_ofNat_of_lt' (by simp [UInt8.size]; omega)]
    exact ascii
  rw [encode_cons ascii, List.cons_append, shownChars_append small, ← List.cons_append, ← encode_cons ascii,
    shownChars_encode, String.toList_ofList]

end Boundary

section Members

variable {lead : UInt8} {found rest : Bytes}

theorem tail_eq_cons {second : UInt8} (whole : tail lead rest = second :: found) :
    isSecond lead second = true ∧ ∀ byte ∈ found, isTail byte = true := by
  unfold tail at whole
  split at whole
  · rename_i count _ others _ _
    split at whole
    · rename_i proper
      cases whole
      exact ⟨proper, List.all_eq_true.mp (List.all_takeWhile)⟩
    · cases whole
  · cases whole

theorem toNat_ofNat {number : Nat} (allowed : number < 0xD800 ∨ 0xDFFF < number ∧ number < 0x110000) :
    (Char.ofNat number).toNat = number := by
  rw [Char.ofNat, dif_pos allowed]
  rfl

/-- A character with tail bytes is not an ASCII one: the shortest form leaves no room for it. -/
theorem toNat_assemble (complete : tailCount lead = some (tail lead rest).length)
    (more : tail lead rest ≠ []) : 0x80 ≤ (assemble lead (tail lead rest)).toNat := by
  rcases whole : tail lead rest with _ | ⟨second, found⟩
  · exact absurd whole more
  obtain ⟨proper, tails⟩ := tail_eq_cons whole
  simp only [isTail_iff] at tails
  rw [isSecond_iff] at proper
  rw [whole, tailCount_eq] at complete
  rw [assemble, leadBits_eq, toNat_ofNat]
  all_goals
    rcases found with _ | ⟨third, _ | ⟨fourth, _ | ⟨fifth, others⟩⟩⟩
    all_goals
      simp only [List.mem_cons, List.not_mem_nil, forall_eq_or_imp, or_false, forall_eq, false_implies,
        List.length_cons, List.length_nil, List.foldl_cons, List.foldl_nil] at *
      grind

/-- What is read at a lead byte is ASCII only if the lead byte is. -/
theorem shown_front_ascii (ascii : (front lead rest).shown.toNat < 0x80) :
    UInt8.ofNat (front lead rest).shown.toNat = lead := by
  unfold front at ascii ⊢
  dsimp only at ascii ⊢
  split at ascii
  · rename_i complete
    rw [if_pos complete]
    by_cases alone : tail lead rest = []
    · have small : lead.toNat < 0x80 := by
        rw [alone, tailCount_eq] at complete
        grind
      have number : leadBits lead = lead.toNat := by rw [leadBits_eq, if_pos small]
      rw [alone, Piece.shown, assemble, List.foldl_nil, number, toNat_ofNat (.inl (by omega)), UInt8.ofNat_toNat]
    · exact absurd ascii (Nat.not_lt.mpr (toNat_assemble complete alone))
  · rw [Piece.shown] at ascii
    exact absurd ascii (by decide)

/-- An ASCII character is only read from its own byte. -/
theorem mem_of_mem_shownChars {char : Char} (ascii : char.toNat < 0x80) {bytes : Bytes}
    (member : char ∈ shownChars bytes) : UInt8.ofNat char.toNat ∈ bytes := by
  induction bytes using pieces.induct with
  | case1 => simp at member
  | case2 lead rest ih =>
      rw [shownChars_cons, List.mem_cons] at member
      rcases member with rfl | later
      · exact List.mem_cons.mpr (.inl (shown_front_ascii ascii))
      · exact List.mem_cons_of_mem _ (List.mem_of_mem_drop (ih later))

end Members

end JarLauncher.Utf8
