import JarLauncher.Text.Utf8

/-!
What writes a text in UTF-8 is read as that text. The bytes of each character, in front of any other bytes,
are cut off as a piece of their own, because the lead byte tells their number.
-/

namespace JarLauncher.Utf8

theorem isTail_iff (byte : UInt8) : isTail byte = true ↔ 0x80 ≤ byte.toNat ∧ byte.toNat < 0xC0 := by
  simp [isTail, UInt8.le_iff_toNat_le, UInt8.lt_iff_toNat_lt]

theorem isSecond_iff (lead second : UInt8) :
    isSecond lead second = true ↔
      (if lead.toNat = 0xE0 then 0xA0 else if lead.toNat = 0xF0 then 0x90 else 0x80) ≤ second.toNat ∧
      second.toNat < (if lead.toNat = 0xED then 0xA0 else if lead.toNat = 0xF4 then 0x90 else 0xC0) := by
  simp only [isSecond, Bool.and_eq_true, decide_eq_true_eq, UInt8.le_iff_toNat_le, UInt8.lt_iff_toNat_lt,
    apply_ite UInt8.toNat, ← UInt8.toNat_inj]
  rfl

theorem tailCount_eq (lead : UInt8) :
    tailCount lead =
      if lead.toNat < 0x80 then some 0
      else if lead.toNat < 0xC2 then none
      else if lead.toNat < 0xE0 then some 1
      else if lead.toNat < 0xF0 then some 2
      else if lead.toNat < 0xF5 then some 3
      else none := rfl

theorem leadBits_eq (lead : UInt8) :
    leadBits lead =
      if lead.toNat < 0x80 then lead.toNat
      else if lead.toNat < 0xE0 then lead.toNat - 0xC0
      else if lead.toNat < 0xF0 then lead.toNat - 0xE0
      else lead.toNat - 0xF0 := rfl

theorem pieces_cons (lead : UInt8) (rest : Bytes) :
    pieces (lead :: rest) = front lead rest :: pieces (rest.drop (tail lead rest).length) := by
  rw [pieces]

/-- A whole character in front of other bytes is a piece of its own. -/
theorem pieces_whole {lead : UInt8} {char : Char} (found rest : Bytes)
    (complete : tailCount lead = some found.length) (continued : tail lead (found ++ rest) = found)
    (assembled : assemble lead found = char) :
    pieces (lead :: (found ++ rest)) = .char char :: pieces rest := by
  rw [pieces_cons, continued, List.drop_left]
  simp only [front, continued, complete, if_true, assembled]

/-- What writes a character in front of other bytes is read as that character. -/
theorem pieces_encodeChar (char : Char) (rest : Bytes) :
    pieces (String.utf8EncodeChar char ++ rest) = .char char :: pieces rest := by
  have valid : char.val.toNat < 0xD800 ∨ 0xDFFF < char.val.toNat ∧ char.val.toNat < 0x110000 := char.valid
  have same : Char.ofNat char.val.toNat = char := Char.ofNat_toNat char
  unfold String.utf8EncodeChar
  generalize char.val.toNat = number at valid same
  have byte (value : Nat) (small : value < 256) : (UInt8.ofNat value).toNat = value := by simp; omega
  dsimp only
  split
  · have lead := byte number (by omega)
    have count : tailCount (UInt8.ofNat number) = some 0 := by rw [tailCount_eq, lead, if_pos (by omega)]
    refine pieces_whole [] rest count (by simp [tail, count]) ?_
    rw [← same, assemble, leadBits_eq, lead, if_pos (by omega), List.foldl_nil]
  split
  · have lead := byte (number / 64 % 32 + 192) (by omega)
    have second := byte (number % 64 + 128) (by omega)
    generalize UInt8.ofNat (number / 64 % 32 + 192) = first at lead
    generalize UInt8.ofNat (number % 64 + 128) = next at second
    have count : tailCount first = some 1 := by
      rw [tailCount_eq, lead, if_neg (by omega), if_neg (by omega), if_pos (by omega)]
    have follows : isSecond first next = true := by
      rw [isSecond_iff, lead, second]
      constructor <;> (repeat' split) <;> omega
    refine pieces_whole [next] rest count (by simp [tail, count, follows]) ?_
    rw [← same, assemble, leadBits_eq, lead, if_neg (by omega), if_pos (by omega)]
    simp only [List.foldl_cons, List.foldl_nil, second]
    exact congrArg Char.ofNat (by omega)
  split
  · have lead := byte (number / 4096 % 16 + 224) (by omega)
    have second := byte (number / 64 % 64 + 128) (by omega)
    have third := byte (number % 64 + 128) (by omega)
    generalize UInt8.ofNat (number / 4096 % 16 + 224) = first at lead
    generalize UInt8.ofNat (number / 64 % 64 + 128) = next at second
    generalize UInt8.ofNat (number % 64 + 128) = last at third
    have count : tailCount first = some 2 := by
      rw [tailCount_eq, lead, if_neg (by omega), if_neg (by omega), if_neg (by omega), if_pos (by omega)]
    have follows : isSecond first next = true := by
      rw [isSecond_iff, lead, second]
      constructor <;> (repeat' split) <;> omega
    have ends : isTail last = true := by rw [isTail_iff]; omega
    refine pieces_whole [next, last] rest count (by simp [tail, count, follows, ends]) ?_
    rw [← same, assemble, leadBits_eq, lead, if_neg (by omega), if_neg (by omega), if_pos (by omega)]
    simp only [List.foldl_cons, List.foldl_nil, second, third]
    exact congrArg Char.ofNat (by omega)
  · have lead := byte (number / 262144 % 8 + 240) (by omega)
    have second := byte (number / 4096 % 64 + 128) (by omega)
    have third := byte (number / 64 % 64 + 128) (by omega)
    have fourth := byte (number % 64 + 128) (by omega)
    generalize UInt8.ofNat (number / 262144 % 8 + 240) = first at lead
    generalize UInt8.ofNat (number / 4096 % 64 + 128) = next at second
    generalize UInt8.ofNat (number / 64 % 64 + 128) = inner at third
    generalize UInt8.ofNat (number % 64 + 128) = last at fourth
    have count : tailCount first = some 3 := by
      rw [tailCount_eq, lead, if_neg (by omega), if_neg (by omega), if_neg (by omega), if_neg (by omega),
        if_pos (by omega)]
    have follows : isSecond first next = true := by
      rw [isSecond_iff, lead, second]
      constructor <;> (repeat' split) <;> omega
    have goesOn : isTail inner = true := by rw [isTail_iff]; omega
    have ends : isTail last = true := by rw [isTail_iff]; omega
    refine pieces_whole [next, inner, last] rest count
      (by simp [tail, count, follows, goesOn, ends]) ?_
    rw [← same, assemble, leadBits_eq, lead, if_neg (by omega), if_neg (by omega), if_neg (by omega)]
    simp only [List.foldl_cons, List.foldl_nil, second, third, fourth]
    exact congrArg Char.ofNat (by omega)

theorem pieces_encode (text : String) : pieces (encode text) = text.toList.map .char := by
  unfold encode
  induction text.toList with
  | nil => simp [pieces]
  | cons char chars ih => rw [List.flatMap_cons, pieces_encodeChar, ih, List.map_cons]

theorem characters_map_char (index : Nat) (chars : List Char) :
    characters index (chars.map .char) = .ok chars := by
  induction chars generalizing index with
  | nil => rfl
  | cons char chars ih => simp only [List.map_cons, characters, ih]

/-- What writes a text is read as that text. -/
@[simp] theorem decode_encode (text : String) : decode (encode text) = .ok text := by
  rw [decode, pieces_encode, characters_map_char]
  simp [Except.map]

@[simp] theorem decode?_encode (text : String) : decode? (encode text) = some text := by
  rw [decode?, decode_encode]
  rfl

end JarLauncher.Utf8
