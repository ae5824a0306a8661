import JarLauncher.Download.Fetch
import JarLauncher.Proofs.Path
import JarLauncher.Text.Utf8.Lossy

/-!
Where a document is collected: under a hidden name of its own, in the directory of its destination, whatever the
bytes of the destination's name are.
-/

namespace JarLauncher

namespace Utf8

theorem encode_injective {text other : String} (same : encode text = encode other) : text = other := by
  have decoded := congrArg decode same
  rw [decode_encode, decode_encode] at decoded
  exact Except.ok.inj decoded

theorem encode_inj {text other : String} : encode text = encode other ↔ text = other :=
  ⟨encode_injective, congrArg encode⟩

theorem decodeLossy_encode (text : String) : decodeLossy (encode text) = text := by
  have shown : (Piece.shown ∘ Piece.char) = id := rfl
  rw [decodeLossy, pieces_encode, List.map_map, shown, List.map_id, String.ofList_toList]

/-- Only the slash is written with the byte of a slash. -/
theorem separator_notMem_encodeChar {char : Char} (other : char ≠ '/') :
    Path.separator ∉ String.utf8EncodeChar char := by
  have code : char.val.toNat ≠ 47 := by
    intro same
    exact other (Char.ext (UInt32.toNat_inj.mp same))
  have byte (value : Nat) (apart : value % 256 ≠ 47) : Path.separator ≠ UInt8.ofNat value := by
    intro same
    have number := congrArg UInt8.toNat same
    rw [UInt8.toNat_ofNat'] at number
    exact apart number.symm
  unfold String.utf8EncodeChar
  generalize char.val.toNat = number at code
  dsimp only
  split
  · exact List.not_mem_cons_of_ne_of_not_mem (byte _ (by omega)) List.not_mem_nil
  split
  · simp only [List.mem_cons, List.not_mem_nil, or_false, not_or]
    exact ⟨byte _ (by omega), byte _ (by omega)⟩
  split
  · simp only [List.mem_cons, List.not_mem_nil, or_false, not_or]
    exact ⟨byte _ (by omega), byte _ (by omega), byte _ (by omega)⟩
  · simp only [List.mem_cons, List.not_mem_nil, or_false, not_or]
    exact ⟨byte _ (by omega), byte _ (by omega), byte _ (by omega), byte _ (by omega)⟩

theorem separator_notMem_encode {text : String} (free : '/' ∉ text.toList) :
    Path.separator ∉ encode text := by
  intro member
  obtain ⟨char, inside, written⟩ := List.mem_flatMap.mp member
  exact separator_notMem_encodeChar (fun same => free (same ▸ inside)) written

end Utf8

namespace Download

theorem toList_hiddenName (name : String) (pid : Nat) :
    (hiddenName name pid).toList =
      '.' :: (name.toList ++ '.' :: (Nat.toDigits 10 pid ++ ['.', 't', 'm', 'p'])) := by
  simp [hiddenName, Nat.toList_repr, toString]

theorem notMem_toDigits {char : Char} (other : char.isDigit = false) (number : Nat) :
    char ∉ Nat.toDigits 10 number := by
  intro member
  have digit := Nat.isDigit_of_mem_toDigits (by decide) (by decide) member
  rw [other] at digit
  cases digit

theorem slash_notMem_hiddenName {name : String} (free : '/' ∉ name.toList) (pid : Nat) :
    '/' ∉ (hiddenName name pid).toList := by
  simp [toList_hiddenName, free, notMem_toDigits]

theorem eq_nil_of_last_dot {rest between digits : List Char} (free : '.' ∉ rest)
    (split : '.' :: rest = between ++ '.' :: digits) : between = [] ∧ rest = digits := by
  cases between with
  | nil => exact ⟨rfl, (List.cons.inj split).2⟩
  | cons char between =>
      obtain ⟨-, rfl⟩ := List.cons.inj split
      exact absurd (by simp) free

/-- What stands behind the last dot tells where that dot is. -/
theorem append_dot_inj {front others digits otherDigits : List Char} (free : '.' ∉ digits)
    (otherFree : '.' ∉ otherDigits) :
    front ++ '.' :: digits = others ++ '.' :: otherDigits ↔ front = others ∧ digits = otherDigits := by
  constructor
  · intro same
    -- Were one front longer than the other, its last dot would stand among the digits behind the shorter one.
    rcases List.append_eq_append_iff.mp same with ⟨between, rfl, split⟩ | ⟨between, rfl, split⟩
    · obtain ⟨rfl, rfl⟩ := eq_nil_of_last_dot free split
      exact ⟨(List.append_nil front).symm, rfl⟩
    · obtain ⟨rfl, rfl⟩ := eq_nil_of_last_dot otherFree split
      exact ⟨List.append_nil others, rfl⟩
  · rintro ⟨rfl, rfl⟩
    rfl

/-- A hidden name shows the name that it is made of and the process that uses it. -/
theorem hiddenName_inj {name otherName : String} {pid other : Nat} :
    hiddenName name pid = hiddenName otherName other ↔ name = otherName ∧ pid = other := by
  constructor
  · intro same
    have framed : (name.toList ++ '.' :: Nat.toDigits 10 pid) ++ ['.', 't', 'm', 'p'] =
        (otherName.toList ++ '.' :: Nat.toDigits 10 other) ++ ['.', 't', 'm', 'p'] := by
      have chars := congrArg (List.tail ∘ String.toList) same
      simpa [toList_hiddenName] using chars
    obtain ⟨names, digits⟩ := (append_dot_inj (notMem_toDigits rfl pid) (notMem_toDigits rfl other)).mp
      (List.append_cancel_right framed)
    have number := congrArg (Nat.ofDigitChars 10 · 0) digits
    exact ⟨String.toList_inj.mp names, by simpa [Nat.ofDigitChars_ten_toDigits] using number⟩
  · rintro ⟨rfl, rfl⟩
    rfl

theorem isName_hiddenName {name : String} (free : '/' ∉ name.toList) (pid : Nat) :
    Path.IsName (Utf8.encode (hiddenName name pid)) := by
  have text : Utf8.encode (hiddenName name pid) =
      Path.dot :: ((name.toList ++ '.' :: (Nat.toDigits 10 pid ++ ['.', 't'])).flatMap
        String.utf8EncodeChar ++ [0x6D, 0x70]) := by
    rw [Utf8.encode, toList_hiddenName]
    simp
    rfl
  have long : 3 ≤ (Utf8.encode (hiddenName name pid)).length := by
    rw [text]
    simp only [List.length_cons, List.length_append, List.length_nil]
    omega
  constructor
  case separator_notMem => exact Utf8.separator_notMem_encode (slash_notMem_hiddenName free pid)
  all_goals
    intro same
    rw [same] at long
    simp at long

/-- Only a slash is shown as a slash. -/
theorem slash_notMem_decodeLossy {name : Bytes} (free : Path.separator ∉ name) :
    '/' ∉ (Utf8.decodeLossy name).toList := by
  rw [Utf8.toList_decodeLossy]
  exact fun member => free (Utf8.mem_of_mem_shownChars (by decide) member)

/-- A hidden name is longer than the name that it is made of. -/
theorem hiddenName_decodeLossy_ne (name : Bytes) (pid : Nat) :
    name ≠ Utf8.encode (hiddenName (Utf8.decodeLossy name) pid) := by
  intro same
  have shown := congrArg Utf8.decodeLossy same
  rw [Utf8.decodeLossy_encode] at shown
  have lengths := congrArg (List.length ∘ String.toList) shown
  simp only [Function.comp_apply, toList_hiddenName, List.length_cons, List.length_append] at lengths
  omega

/-- A file and the hidden one beside it: two entries of one directory, which `place` leads to as well. -/
structure Beside (hidden destination directory place : Path) (hiddenAs name : Bytes) : Prop where
  staged : hidden.IsEntry directory hiddenAs
  placed : destination.IsEntry directory name
  apart : name ≠ hiddenAs
  above : hidden.parent? = some place
  same : place.components = directory.components

theorem Beside.congr {hidden destination directory other place : Path} {hiddenAs name : Bytes}
    (beside : Beside hidden destination directory place hiddenAs name)
    (same : directory.components = other.components) : Beside hidden destination other place hiddenAs name where
  staged := beside.staged.congr same
  placed := beside.placed.congr same
  apart := beside.apart
  above := beside.above
  same := beside.same.trans same

theorem beside_stagingPath {destination : Path} {name : Bytes} (named : destination.fileName? = some name)
    (pid : Nat) :
    ∃ directory place, Beside (stagingPath destination pid) destination directory place
      (Utf8.encode (hiddenName (Utf8.decodeLossy name) pid)) name := by
  obtain ⟨proper, directory, parent, placed⟩ := Path.exists_parent_of_fileName? named
  have hidden := isName_hiddenName (slash_notMem_decodeLossy proper.separator_notMem) pid
  have staging : stagingPath destination pid =
      directory.join ⟨Utf8.encode (hiddenName (Utf8.decodeLossy name) pid)⟩ := by
    simp only [stagingPath, Path.withFileName, named, parent, Option.map_some, Option.getD_some]
  obtain ⟨place, above, same⟩ := Path.parent?_join directory hidden
  refine ⟨directory, place, ?_, placed, hiddenName_decodeLossy_ne name pid, ?_, same⟩
  · rw [staging]
    exact .join directory hidden
  · rw [staging, above]

section TextNames

variable {destination other : Path} {name otherName : String}

/-- A document with a text for its name is collected in the directory that it goes to. -/
theorem exists_parent_of_stagingPath (named : destination.fileName? = some (Utf8.encode name)) (pid : Nat) :
    ∃ directory, destination.parent? = some directory ∧
      destination.IsEntry directory (Utf8.encode name) ∧
      (stagingPath destination pid).IsEntry directory (Utf8.encode (hiddenName name pid)) := by
  obtain ⟨-, directory, above, placed⟩ := Path.exists_parent_of_fileName? named
  obtain ⟨other, place, beside⟩ := beside_stagingPath named pid
  rw [Utf8.decodeLossy_encode] at beside
  have same := (beside.placed.components_inj placed).mp rfl
  exact ⟨directory, above, placed, beside.staged.congr same.1⟩

theorem components_stagingPath_ne (named : destination.fileName? = some (Utf8.encode name)) (pid : Nat) :
    (stagingPath destination pid).components ≠ destination.components := by
  obtain ⟨directory, place, beside⟩ := beside_stagingPath named pid
  intro same
  have names := (beside.staged.components_inj beside.placed).mp same
  exact beside.apart names.2.symm

/-- The place where a document is collected tells its destination and the process that collects it. -/
theorem components_stagingPath_inj (named : destination.fileName? = some (Utf8.encode name))
    (otherNamed : other.fileName? = some (Utf8.encode otherName)) (pid otherPid : Nat) :
    (stagingPath destination pid).components = (stagingPath other otherPid).components ↔
      destination.components = other.components ∧ pid = otherPid := by
  obtain ⟨directory, -, placed, staged⟩ := exists_parent_of_stagingPath named pid
  obtain ⟨otherDirectory, -, otherPlaced, otherStaged⟩ := exists_parent_of_stagingPath otherNamed otherPid
  rw [staged.components_inj otherStaged, placed.components_inj otherPlaced, Utf8.encode_inj, Utf8.encode_inj,
    hiddenName_inj, and_assoc]

end TextNames

end Download
end JarLauncher
