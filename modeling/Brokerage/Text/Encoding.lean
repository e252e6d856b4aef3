/-!
Bytes spelled with the characters of an alphabet. A character stands for a few bits, and characters
come in blocks that make whole bytes. A block may be padded where it makes fewer bytes; it then has
as few characters as these take, and its bits beyond the last byte are zero, so that bytes have one
spelling in a block. Any block may be padded, not only the last.
-/

set_option autoImplicit false

namespace Brokerage.Text

/-- An alphabet: the bits and the meaning of a character, and the number of characters in a
block. -/
structure Encoding where
  bits : Nat
  block : Nat
  digit? : Char → Option Nat

namespace Encoding

/-- The bytes of a number, of which there are `count`, most significant first. -/
def bytesOf (count value : Nat) : List UInt8 :=
  ((List.range count).map fun place ↦ UInt8.ofNat (value >>> (8 * place))).reverse

/-- The number that characters stand for, most significant first. -/
def value? (encoding : Encoding) (digits : List Char) : Option Nat :=
  digits.foldlM
    (fun value c ↦ (encoding.digit? c).map (Nat.pow 2 encoding.bits * value + ·)) 0

/-- The bytes of one block. -/
def blockBytes? (encoding : Encoding) (block : List Char) : Option (List UInt8) :=
  let digits := block.takeWhile (· != '=')
  let padding := block.dropWhile (· != '=')
  let count := digits.length * encoding.bits / 8
  let spare := digits.length * encoding.bits % 8
  if block.length != encoding.block || !padding.all (· == '=') || count = 0 ||
      encoding.bits ≤ spare then none
  else
    match encoding.value? digits with
    | some value =>
      if value % Nat.pow 2 spare = 0 then some (bytesOf count (value >>> spare)) else none
    | none => none

/-- The bytes of a text of up to so many blocks. -/
def decodeIn (encoding : Encoding) : (blocks : Nat) → List Char → Option (List UInt8)
  | _, [] => some []
  | 0, _ => none
  | blocks + 1, s =>
    match encoding.blockBytes? (s.take encoding.block) with
    | some bytes => (decodeIn encoding blocks (s.drop encoding.block)).map (bytes ++ ·)
    | none => none

/-- The bytes that a text spells. -/
def decode? (encoding : Encoding) (s : List Char) : Option (List UInt8) :=
  encoding.decodeIn s.length s

/-! ### Alphabets -/

/-- The place of a character in a run of the alphabet that begins with another character. -/
def inRun? (first last : Char) (offset : Nat) (c : Char) : Option Nat :=
  if first ≤ c && c ≤ last then some (c.toNat - first.toNat + offset) else none

/-- Sixty-four characters, of which the last two differ from use to use. -/
def base64With (last next : Char) : Encoding where
  bits := 6
  block := 4
  digit? c :=
    (inRun? 'A' 'Z' 0 c).or <| (inRun? 'a' 'z' 26 c).or <| (inRun? '0' '9' 52 c).or <|
      (inRun? last last 62 c).or (inRun? next next 63 c)

def base64 : Encoding := base64With '+' '/'

def base64url : Encoding := base64With '-' '_'

/-- Capital letters, and the digits that do not look like one of them. -/
def base32 : Encoding where
  bits := 5
  block := 8
  digit? c := (inRun? 'A' 'Z' 0 c).or (inRun? '2' '7' 26 c)

/-- The digits, and capital letters behind them. -/
def base32hex : Encoding where
  bits := 5
  block := 8
  digit? c := (inRun? '0' '9' 0 c).or (inRun? 'A' 'V' 10 c)

/-- Hexadecimal digits of either case. -/
def base16 : Encoding where
  bits := 4
  block := 2
  digit? c := (inRun? '0' '9' 0 c).or ((inRun? 'A' 'F' 10 c).or (inRun? 'a' 'f' 10 c))

/-- The encodings by name. -/
def named : List (String × Encoding) :=
  [("base16", base16), ("base32", base32), ("base32hex", base32hex), ("base64", base64),
   ("base64url", base64url)]

end Encoding

end Brokerage.Text
