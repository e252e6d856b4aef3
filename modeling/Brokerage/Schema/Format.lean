import Brokerage.Pattern.Spelled
import Brokerage.Schema.Address
import Brokerage.Schema.Draft
import Brokerage.Schema.Format.Mail
import Brokerage.Schema.Format.Moment
import Brokerage.Schema.Format.Template

/-!
Formats: what texts look like that mean a date, an address or the like. A format that is not known,
or not yet known to a version, accepts every text.
-/

set_option autoImplicit false

namespace Brokerage.Schema.Format

/-! ### Addresses -/

/-- Whether a text is an address, which may be wide and may leave parts out. -/
def isReference (wide : Bool) (s : List Char) : Bool :=
  match Address.readReference wide s with
  | .ok _ => true
  | .error _ => false

/-- Whether a text is an address with its scheme. -/
def isWholeAddress (wide : Bool) (s : List Char) : Bool :=
  match Address.readReference wide s with
  | .ok a => a.scheme.isSome
  | .error _ => false

/-! ### Paths and patterns -/

/-- Whether a tilde always makes an escape in a path. -/
def hasGoodTildes : List Char → Bool
  | [] => true
  | '~' :: '0' :: rest | '~' :: '1' :: rest => hasGoodTildes rest
  | c :: rest => c != '~' && hasGoodTildes rest

def isPath (s : List Char) : Bool :=
  s.isEmpty || (s.head? == some '/' && hasGoodTildes s)

/-- A path from some steps up, or the name by which such a place is known there. -/
def isRelativePath (s : List Char) : Bool :=
  let digits := s.takeWhile Char.isDigit
  let rest := s.dropWhile Char.isDigit
  !digits.isEmpty && (digits.length = 1 || digits.head? != some '0') &&
    (rest == ['#'] || isPath rest)

/-- Whether a text can be spelled as a pattern; whether there is such a pattern is not asked. -/
def isPattern (s : List Char) : Bool :=
  (Pattern.spelling? (String.ofList s)).isSome

/-! ### Names -/

/-- The formats by name, each with the version it came with. -/
def known : List (String × Draft × (List Char → Bool)) := [
  ("date", .draft4, isDate), ("date-time", .draft4, isDateTime), ("time", .draft4, isTime),
  ("email", .draft4, isMailTo Host.isName),
  ("hostname", .draft4, Host.isName),
  ("idn-email", .draft4, isMailTo Host.isInternationalName),
  ("idn-hostname", .draft7, Host.isInternationalName),
  ("ipv4", .draft4, Host.isIpv4), ("ipv6", .draft4, Host.isIpv6),
  ("iri", .draft7, isWholeAddress true), ("iri-reference", .draft7, isReference true),
  ("json-pointer", .draft6, isPath), ("relative-json-pointer", .draft7, isRelativePath),
  ("regex", .draft4, isPattern),
  ("uri", .draft4, isWholeAddress false), ("uri-reference", .draft6, isReference false),
  ("uri-template", .draft6, isTemplate)]

def accepts (draft : Draft) (name text : String) : Bool :=
  match known.lookup name with
  | some (first, test) => !draft.since first || test text.toList
  | none => true

end Brokerage.Schema.Format
