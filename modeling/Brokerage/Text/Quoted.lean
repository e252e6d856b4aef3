import Brokerage.Text.Blank
import Brokerage.Text.Hidden

/-!
Quoted text, as it appears when a record or an identifier is shown in a diagnostic. Quotes,
backslashes and the common controls are escaped by a letter, hidden code points by number, and
everything else stands for itself.
-/

set_option autoImplicit false

namespace Brokerage.Text

/-- Lower-case hexadecimal digits without leading zeros. -/
def hexDigits (n : Nat) : List Char :=
  Nat.toDigits 16 n

def quotedChar (c : Char) : List Char :=
  if c = '"' then ['\\', '"']
  else if c = '\\' then ['\\', '\\']
  else if c = '\n' then ['\\', 'n']
  else if c = '\r' then ['\\', 'r']
  else if c = '\t' then ['\\', 't']
  else if c.toNat = 0 then ['\\', '0']
  else if inRanges hidden c.toNat then ['\\', 'u', '\x7b'] ++ hexDigits c.toNat ++ ['\x7d']
  else [c]

def quoted (s : String) : String :=
  String.ofList ('"' :: s.toList.flatMap quotedChar ++ ['"'])

end Brokerage.Text
