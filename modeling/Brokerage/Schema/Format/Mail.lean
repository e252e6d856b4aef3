import Brokerage.Host.Name
import Brokerage.Host.Number
import Brokerage.Text.Blank
import Brokerage.Text.Location

/-!
Format of addresses for mail: a mailbox and a place, perhaps in angle brackets behind a name that is
shown. The mailbox is a run of atoms with dots between them, or a text in quotes; the place is a
host by name, or by number in brackets.
-/

set_option autoImplicit false

namespace Brokerage.Schema.Format

/-- Characters that a mailbox may have without quotes. -/
def isMailboxChar (c : Char) : Bool :=
  c.isAlphanum || "!#$%&'*+-/=?^_\u0060\x7b|\x7d~".toList.contains c || 0x80 ≤ c.toNat

/-- What stands between the quotes of a quoted mailbox. -/
def isQuotedMailbox : List Char → Bool
  | [] => true
  | '\\' :: c :: rest => '!' ≤ c && c ≤ '~' && isQuotedMailbox rest
  | c :: rest =>
    c != '"' && c != '\\' && (' ' ≤ c || c = '\t') && c != '\x7f' && isQuotedMailbox rest

/-- The greatest number of bytes in a mailbox, and in a place. -/
def mailboxLimit : Nat := 64

def placeLimit : Nat := 254

def isMailbox (s : List Char) : Bool :=
  !s.isEmpty && Text.byteLength s ≤ mailboxLimit &&
    match s, s.getLast? with
    | ['"'], _ => false
    | '"' :: rest, some '"' => isQuotedMailbox rest.dropLast
    | _, _ => (Text.partsAt '.' s).all fun atom ↦ !atom.isEmpty && atom.all isMailboxChar

def isLetterOrDigit (c : Char) : Bool :=
  if c.toNat < 0x80 then c.isAlphanum
  else Unicode.alphabetic.has c.toNat || Unicode.numbers.has c.toNat

/-- A part of a place; whether the host has such a name is another matter. -/
def isPlacePart (s : List Char) : Bool :=
  s.head?.any isLetterOrDigit && s.getLast?.any isLetterOrDigit &&
    Text.byteLength s ≤ Host.labelLimit && s.all fun c ↦ isLetterOrDigit c || c = '-'

/-- A place by name or by number. -/
def isPlace (isName : List Char → Bool) (s : List Char) : Bool :=
  match s, s.getLast? with
  | '[' :: 'I' :: 'P' :: 'v' :: '6' :: ':' :: rest, some ']' => Host.isIpv6 rest.dropLast
  | '[' :: rest, some ']' => Host.isIpv4 rest.dropLast
  | _, _ =>
    Text.byteLength s ≤ placeLimit && (Text.partsAt '.' s).all isPlacePart && isName s

/-- What stands behind the last opening angle bracket that a space precedes. -/
def bracketed? : List Char → Option (List Char)
  | ' ' :: '<' :: rest => some ((bracketed? rest).getD rest)
  | _ :: rest => bracketed? rest
  | [] => none

/-- The address without the name that is shown. -/
def bareAddress? (s : List Char) : Option (List Char) :=
  match bracketed? s with
  | none => some s
  | some behind =>
    match (behind.reverse.dropWhile Text.isWhiteSpace) with
    | '>' :: rest => some (rest.reverse.dropWhile Text.isWhiteSpace)
    | _ => none

/-- An address for mail to hosts of the given names. -/
def isMailTo (isName : List Char → Bool) (s : List Char) : Bool :=
  match (bareAddress? s).bind (Text.splitAtLast? '@') with
  | some (mailbox, place) => isMailbox mailbox && isPlace isName place
  | none => false

end Brokerage.Schema.Format
