import Brokerage.Text.Digit
import Brokerage.Text.Parts

/-!
Format of templates for addresses: text with expressions in braces between. An expression lists
variables, each by a name and perhaps with a length or a star behind it, and may begin with an
operator.
-/

set_option autoImplicit false

namespace Brokerage.Schema.Format

/-- A digit of an octet, whose letters are small. -/
def isSmallHexDigit (c : Char) : Bool :=
  Text.isHexDigit c && !c.isUpper

/-- A name of a variable: small letters, digits, underscores and octets by number. -/
def isVariableName : List Char → Bool
  | [] => true
  | '%' :: a :: b :: rest => isSmallHexDigit a && isSmallHexDigit b && isVariableName rest
  | c :: rest => (c.isLower || c.isDigit || c = '_') && isVariableName rest

/-- A length of up to four digits. -/
def isVariableLength (s : List Char) : Bool :=
  s.head?.any (fun c ↦ c.isDigit && c != '0') && s.length ≤ 4 && s.all Char.isDigit

def isVariable (s : List Char) : Bool :=
  match Text.splitAtLast? ':' s with
  | some (name, length) => !name.isEmpty && isVariableName name && isVariableLength length
  | none =>
    let name := if s.getLast? = some '*' then s.dropLast else s
    !name.isEmpty && isVariableName name

/-- What stands between the braces. -/
def isExpression (s : List Char) : Bool :=
  let names := match s with
    | c :: rest => if "+#./;?&=,!@|".toList.contains c then rest else s
    | [] => []
  (Text.partsAt ',' names).all isVariable

/-- Characters of the text around expressions. -/
def isTemplateText (c : Char) : Bool :=
  ' ' < c && !"\"'<>%\\^\u0060\x7b|\x7d".toList.contains c

/-- The text behind an expression that begins here, if it is one. -/
def behindExpression? (s : List Char) : Option (List Char) :=
  match s.dropWhile (· != '\x7d') with
  | _ :: rest => if isExpression (s.takeWhile (· != '\x7d')) then some rest else none
  | [] => none

/-- Whether a text is a template; it is gone through in no more steps than it has characters. -/
def isTemplateIn : (steps : Nat) → List Char → Bool
  | _, [] => true
  | 0, _ => false
  | steps + 1, c :: rest =>
    if c = '\x7b' then
      match behindExpression? rest with
      | some behind => isTemplateIn steps behind
      | none => false
    else if c = '%' then
      match rest with
      | a :: b :: behind => isSmallHexDigit a && isSmallHexDigit b && isTemplateIn steps behind
      | _ => false
    else isTemplateText c && isTemplateIn steps rest

def isTemplate (s : List Char) : Bool :=
  isTemplateIn s.length s

end Brokerage.Schema.Format
