import IdIssuer.Text.Hidden

/-!
# Quoted text

The quoted form of a text stands between double quotes on one line. A double quote, a backslash and
the usual controls are written with a backslash, any other hidden character by its code point in
hexadecimal, and everything else as it is.
-/

namespace IdIssuer

namespace Quoted

/-- The written form of one character. -/
def encodeChar (c : Char) : List Char :=
  match c with
  | '"' => ['\\', '"']
  | '\\' => ['\\', '\\']
  | '\n' => ['\\', 'n']
  | '\r' => ['\\', 'r']
  | '\t' => ['\\', 't']
  | '\x00' => ['\\', '0']
  | c =>
    if isHidden c then ['\\', 'u', '\x7b'] ++ Nat.toDigits 16 c.toNat ++ ['\x7d'] else [c]

/-- The quoted form of a text. -/
def encode (text : String) : String :=
  String.ofList ('"' :: text.toList.flatMap encodeChar ++ ['"'])

end Quoted

end IdIssuer
