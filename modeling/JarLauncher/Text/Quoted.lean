import JarLauncher.Text.Printable
import JarLauncher.Text.Utf8

/-!
Quoted text for messages: between double quotes, with a backslash before what would be unreadable.
-/

namespace JarLauncher.Text

def hexadecimal (number : Nat) : String :=
  String.ofList (Nat.toDigits 16 number)

def hexByte (byte : UInt8) : String :=
  let digits := (Nat.toDigits 16 byte.toNat).map Char.toUpper
  String.ofList (List.replicate (2 - digits.length) '0' ++ digits)

/-- A character inside quotes: itself if it is printable and stands on its own, else an escape. -/
def quoteChar (char : Char) : String :=
  match char with
  | '\x00' => "\\0"
  | '\t' => "\\t"
  | '\r' => "\\r"
  | '\n' => "\\n"
  | '\\' => "\\\\"
  | '"' => "\\\""
  | _ =>
    if isPrintable char && !isExtending char then char.toString
    else "\\u\x7b" ++ hexadecimal char.toNat ++ "\x7d"

/-- A piece inside quotes; the bytes of a broken part are shown one by one. -/
def quotePiece : Utf8.Piece → String
  | .char value => quoteChar value
  | .broken bytes _ => String.join (bytes.map fun byte => "\\x" ++ hexByte byte)

def quote (text : String) : String :=
  "\"" ++ String.join (text.toList.map quoteChar) ++ "\""

def quoteBytes (bytes : Bytes) : String :=
  "\"" ++ String.join ((Utf8.pieces bytes).map quotePiece) ++ "\""

end JarLauncher.Text
