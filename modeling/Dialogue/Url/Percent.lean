import Dialogue.Text.Basic

/-!
# Percent encoding

A text is encoded byte by byte: the characters of a set stand for themselves, every other byte is
written as a percent sign and two hexadecimal digits.
-/

namespace Dialogue.Percent

open Text

/-- A digit of base sixteen in upper case. -/
def digit (n : Nat) : Char :=
  if n < 10 then Char.ofNat ('0'.toNat + n) else Char.ofNat ('A'.toNat + (n - 10))

/-- A byte by its number. -/
def byte (b : UInt8) : List Char := ['%', digit (b.toNat / 16), digit (b.toNat % 16)]

/-- A character that stands for itself, or its bytes by their numbers. -/
def encodeChar (keep : Char → Bool) (c : Char) : List Char :=
  if keep c then [c] else (utf8 [c]).flatMap byte

/-- A text, character by character. -/
def encode (keep : Char → Bool) (text : List Char) : List Char := text.flatMap (encodeChar keep)

/-- The characters that stand for themselves in the fields of a form. -/
def isFormChar (c : Char) : Bool :=
  isDigit c || isAsciiLetter c || c == '*' || c == '-' || c == '.' || c == '_'

/-- A text as one segment of a path: only letters, digits and four marks stand for themselves. -/
def segment (text : List Char) : List Char := encode isFormChar text

/-- A text as a name or a value of a form, with a plus sign for a blank. -/
def formField (text : List Char) : List Char :=
  text.flatMap fun c => if c = ' ' then ['+'] else encodeChar isFormChar c

/-- Fields of a form. -/
def form (fields : List (List Char × List Char)) : List Char :=
  join ['&'] (fields.map fun (name, value) => formField name ++ '=' :: formField value)

/-- The bytes that a text stands for, an encoded byte as the byte itself. -/
def decode : List Char → List UInt8
  | [] => []
  | '%' :: a :: b :: rest =>
    match hexValue? a, hexValue? b with
    | some x, some y => UInt8.ofNat (x * 16 + y) :: decode rest
    | _, _ => 37 :: decode (a :: b :: rest)
  | c :: rest => utf8 [c] ++ decode rest

end Dialogue.Percent
