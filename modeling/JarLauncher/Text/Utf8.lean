/-!
UTF-8 text in byte strings. `Utf8.pieces` cuts bytes into the characters and the broken parts they are
made of; `Utf8.decode` accepts bytes without a broken part, and `Utf8.decodeLossy` puts the
replacement character in the place of each.
-/

namespace JarLauncher

/-- A string of bytes: the contents of a file, a path, or an argument. -/
abbrev Bytes := List UInt8

namespace Utf8

/-- A character, or the longest run of bytes that starts a character and does not finish it. -/
inductive Piece
  | char (value : Char)
  /-- `truncated` says that the bytes ended inside the character. -/
  | broken (bytes : Bytes) (truncated : Bool)
  deriving DecidableEq, Repr

def encode (text : String) : Bytes :=
  text.toList.flatMap String.utf8EncodeChar

/-- How many bytes follow a lead byte; `none` if no character starts with it. -/
def tailCount (lead : UInt8) : Option Nat :=
  if lead < 0x80 then some 0
  else if lead < 0xC2 then none
  else if lead < 0xE0 then some 1
  else if lead < 0xF0 then some 2
  else if lead < 0xF5 then some 3
  else none

/-- Whether a byte may stand in the second or a later place of a character. -/
def isTail (byte : UInt8) : Bool :=
  0x80 ≤ byte && byte < 0xC0

/-- Whether `second` may follow `lead`: the shortest form only, no surrogates, nothing above U+10FFFF. -/
def isSecond (lead second : UInt8) : Bool :=
  let low := if lead = 0xE0 then 0xA0 else if lead = 0xF0 then 0x90 else 0x80
  let high := if lead = 0xED then 0xA0 else if lead = 0xF4 then 0x90 else 0xC0
  low ≤ second && second < high

/-- The longest run of bytes that can continue a character begun by `lead`. -/
def tail (lead : UInt8) (rest : Bytes) : Bytes :=
  match tailCount lead, rest with
  | some (count + 1), second :: others =>
    if isSecond lead second then second :: (others.take count).takeWhile isTail else []
  | _, _ => []

/-- The part of a lead byte that belongs to the character's number. -/
def leadBits (lead : UInt8) : Nat :=
  if lead < 0x80 then lead.toNat
  else if lead < 0xE0 then lead.toNat - 0xC0
  else if lead < 0xF0 then lead.toNat - 0xE0
  else lead.toNat - 0xF0

/-- The character written by a lead byte and all its tail bytes. -/
def assemble (lead : UInt8) (tail : Bytes) : Char :=
  Char.ofNat (tail.foldl (fun number byte => number * 64 + (byte.toNat - 0x80)) (leadBits lead))

/-- The piece at the front of `lead :: rest`. -/
def front (lead : UInt8) (rest : Bytes) : Piece :=
  let found := tail lead rest
  if tailCount lead = some found.length then .char (assemble lead found)
  else .broken (lead :: found) ((tailCount lead).isSome && (rest.drop found.length).isEmpty)

/-- The characters and broken parts of `bytes`, in order. -/
def pieces : Bytes → List Piece
  | [] => []
  | lead :: rest => front lead rest :: pieces (rest.drop (tail lead rest).length)
  termination_by bytes => bytes.length
  decreasing_by rw [List.length_drop, List.length_cons]; omega

/-- Where bytes stop being text: the index of the broken part, and its length unless the bytes ended in it. -/
structure Fault where
  index : Nat
  length : Option Nat
  deriving DecidableEq, Repr

def Fault.message (fault : Fault) : String :=
  match fault.length with
  | some length => s!"invalid utf-8 sequence of {length} bytes from index {fault.index}"
  | none => s!"incomplete utf-8 byte sequence from index {fault.index}"

/-- The characters of pieces without a broken part; the pieces start at byte `index`. -/
def characters : Nat → List Piece → Except Fault (List Char)
  | _, [] => .ok []
  | index, .char value :: rest =>
    match characters (index + value.utf8Size) rest with
    | .ok values => .ok (value :: values)
    | .error fault => .error fault
  | index, .broken bytes truncated :: _ =>
    .error ⟨index, if truncated then none else some bytes.length⟩

/-- The text that bytes write, or the first fault in them. -/
def decode (bytes : Bytes) : Except Fault String :=
  (characters 0 (pieces bytes)).map String.ofList

def decode? (bytes : Bytes) : Option String :=
  (decode bytes).toOption

/-- The character shown for a piece: U+FFFD stands for a broken part. -/
def Piece.shown : Piece → Char
  | .char value => value
  | .broken _ _ => '\uFFFD'

/-- The text of bytes, with one replacement character for each broken part. -/
def decodeLossy (bytes : Bytes) : String :=
  String.ofList ((pieces bytes).map Piece.shown)

end Utf8
end JarLauncher
