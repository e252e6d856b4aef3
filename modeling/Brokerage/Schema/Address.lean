import Brokerage.Host.Number
import Brokerage.Text.Blank
import Brokerage.Text.Location

/-!
Addresses of documents and of places in them: scheme, authority, path, query and fragment. An
address may leave parts out and is then completed from a base. Addresses are compared in their
normal form: scheme and host in lower case, no octet written by number that could stand for
itself, and no steps up or in place.
-/

set_option autoImplicit false

namespace Brokerage.Schema

structure Address where
  scheme : Option String := none
  authority : Option String := none
  path : String := ""
  query : Option String := none
  fragment : Option String := none
  deriving DecidableEq

namespace Address

/-- The written form. -/
def text (a : Address) : String :=
  let part (before : String) (value? : Option String) : String :=
    match value? with
    | some value => before ++ value
    | none => ""
  (match a.scheme with
    | some scheme => scheme ++ ":"
    | none => "") ++
  part "//" a.authority ++ a.path ++ part "?" a.query ++ part "#" a.fragment

def withoutFragment (a : Address) : Address :=
  { a with fragment := none }

/-! ### Reading -/

/-- What is wrong with a text that should be an address, and the text where it is wrong. -/
inductive Malformation where
  | octet (rest : List Char)
  | character (rest : List Char)
  | host (rest : List Char)

/-- Code points beyond ASCII that may stand in an address that is wide enough for them: all but the
private ones, those that are no characters, and the tags. -/
def wideRanges : List (Nat × Nat) :=
  [(0xA0, 0xD7FF), (0xF900, 0xFDCF), (0xFDF0, 0xFFEF)] ++
    ((List.range 13).map fun n ↦ (0x10000 * (n + 1), 0x10000 * (n + 1) + 0xFFFD)) ++
    [(0xE1000, 0xEFFFD)]

/-- Private code points, which may stand in a query. -/
def privateRanges : List (Nat × Nat) :=
  [(0xE000, 0xF8FF), (0xF0000, 0xFFFFD), (0x100000, 0x10FFFD)]

/-- The characters that never mean anything but themselves. -/
def isUnreserved (c : Char) : Bool :=
  c.isAlphanum || ['-', '.', '_', '~'].contains c

def isSubDelimiter (c : Char) : Bool :=
  ['!', '$', '&', '\'', '(', ')', '*', '+', ',', ';', '='].contains c

/-- Characters of the host, where an address may be wide. -/
def inHost (wide : Bool) (c : Char) : Bool :=
  isUnreserved c || isSubDelimiter c || (wide && Text.inRanges wideRanges c.toNat)

def inUser (wide : Bool) (c : Char) : Bool :=
  inHost wide c || c = ':'

def inSegment (wide : Bool) (c : Char) : Bool :=
  inHost wide c || c = ':' || c = '@'

def inPath (wide : Bool) (c : Char) : Bool :=
  inSegment wide c || c = '/'

def inFirstSegment (wide : Bool) (c : Char) : Bool :=
  inSegment wide c && c != ':'

def inFragment (wide : Bool) (c : Char) : Bool :=
  inPath wide c || c = '?'

def inQuery (wide : Bool) (c : Char) : Bool :=
  inFragment wide c || (wide && Text.inRanges privateRanges c.toNat)

def inScheme (c : Char) : Bool :=
  c.isAlphanum || ['+', '-', '.'].contains c

/-- What is read and what is left. -/
abbrev Scan (α : Type) := Except Malformation (α × List Char)

/-- Characters of a kind and octets written by number, as many as there are. -/
def readRun (allowed : Char → Bool) : List Char → Scan (List Char)
  | '%' :: a :: b :: rest =>
    if Text.isHexDigit a && Text.isHexDigit b then
      match readRun allowed rest with
      | .ok (run, after) => .ok ('%' :: a :: b :: run, after)
      | .error malformation => .error malformation
    else .error (.octet ('%' :: a :: b :: rest))
  | c :: rest =>
    if c = '%' then .error (.octet (c :: rest))
    else if allowed c then
      match readRun allowed rest with
      | .ok (run, after) => .ok (c :: run, after)
      | .error malformation => .error malformation
    else .ok ([], c :: rest)
  | [] => .ok ([], [])

/-- A part that follows a mark, if the mark is there. -/
def readBehind (mark : Char) (allowed : Char → Bool) (s : List Char) : Scan (Option String) :=
  match s with
  | c :: rest =>
    if c = mark then
      match readRun allowed rest with
      | .ok (run, after) => .ok (some (String.ofList run), after)
      | .error malformation => .error malformation
    else .ok (none, s)
  | [] => .ok (none, [])

/-- Query and fragment, with which an address ends. -/
def finish (wide : Bool) (a : Address) (s : List Char) : Except Malformation Address :=
  match readBehind '?' (inQuery wide) s with
  | .error malformation => .error malformation
  | .ok (query, afterQuery) =>
    match readBehind '#' (inFragment wide) afterQuery with
    | .error malformation => .error malformation
    | .ok (fragment, []) => .ok { a with query, fragment }
    | .ok (_, rest) => .error (.character rest)

def readPath (wide : Bool) (a : Address) (s : List Char) : Except Malformation Address :=
  match readRun (inPath wide) s with
  | .error malformation => .error malformation
  | .ok (path, rest) => finish wide { a with path := String.ofList path } rest

/-- Whether a host in brackets is of a kind that is still to come, by its version. -/
def isFutureHost (s : List Char) : Bool :=
  match s with
  | v :: rest =>
    let version := rest.takeWhile Text.isHexDigit
    match rest.dropWhile Text.isHexDigit with
    | '.' :: name =>
      (v = 'v' || v = 'V') && !version.isEmpty && !name.isEmpty && name.all (inUser false)
    | _ => false
  | [] => false

/-- The host of an authority, with the number that may follow it. -/
def readHost (wide : Bool) (s : List Char) : Scan (List Char) :=
  let withNumber (host rest : List Char) : Scan (List Char) :=
    match rest with
    | ':' :: tail =>
      let digits := tail.takeWhile Char.isDigit
      .ok (host ++ ':' :: digits, tail.dropWhile Char.isDigit)
    | _ => .ok (host, rest)
  match s with
  | '[' :: rest =>
    let within := rest.takeWhile (· != ']')
    match rest.dropWhile (· != ']') with
    | ']' :: after =>
      if Host.isIpv6 within || isFutureHost within then withNumber ('[' :: within ++ [']']) after
      else .error (.host rest)
    | _ => .error (.character s)
  | _ =>
    match readRun (inHost wide) s with
    | .error malformation => .error malformation
    | .ok (host, rest) => withNumber host rest

/-- An authority, behind its two slashes. -/
def readAuthority (wide : Bool) (s : List Char) : Scan (List Char) :=
  match readRun (inUser wide) s with
  | .error malformation => .error malformation
  | .ok (user, '@' :: rest) =>
    match readHost wide rest with
    | .error malformation => .error malformation
    | .ok (host, after) => .ok (user ++ '@' :: host, after)
  | .ok _ => readHost wide s

/-- What follows the scheme of an address or begins one without. -/
def readHierarchy (wide : Bool) (a : Address) (s : List Char) : Except Malformation Address :=
  match s with
  | '/' :: '/' :: rest =>
    match readAuthority wide rest with
    | .error malformation => .error malformation
    | .ok (authority, after) =>
      let a := { a with authority := some (String.ofList authority) }
      match after with
      | [] => .ok a
      | c :: _ =>
        if c = '/' || c = '?' || c = '#' then readPath wide a after
        else .error (.character after)
  | _ => readPath wide a s

/-- An address, which may be wide; its scheme is in ASCII in any case. -/
def readReference (wide : Bool) (s : List Char) : Except Malformation Address :=
  match s.takeWhile inScheme, s.dropWhile inScheme with
  | scheme, ':' :: rest =>
    if scheme.head?.any Char.isAlpha then
      readHierarchy wide { scheme := some (String.ofList scheme) } rest
    else .error (.character s)
  | [], rest =>
    if rest.take 2 = ['/', '/'] then readHierarchy wide {} rest else relative rest
  | _, _ => relative s
where
  /-- A path whose first step holds no colon, which would end a scheme. -/
  relative (s : List Char) : Except Malformation Address :=
    match readRun (inFirstSegment wide) s with
    | .error malformation => .error malformation
    | .ok (_, ':' :: rest) => .error (.character (':' :: rest))
    | .ok _ => readPath wide {} s

/-- The wording of a malformation, by the number of bytes before it. -/
def Malformation.message (whole : List Char) : Malformation → String
  | .octet rest =>
    let index := Text.byteLength whole - Text.byteLength rest
    s!"invalid percent-encoded octet at index {index}"
  | .character rest =>
    let index := Text.byteLength whole - Text.byteLength rest
    s!"unexpected character at index {index}"
  | .host rest =>
    let index := Text.byteLength whole - Text.byteLength rest
    s!"invalid IPv6 address at index {index}"

/-- The address that a text denotes, or what is wrong with it. -/
def ofText (text : String) : Except String Address :=
  match readReference false text.toList with
  | .ok a => .ok a
  | .error malformation => .error (malformation.message text.toList)

/-! ### Normal form -/

/-- Octets written by number stand for themselves where they can. -/
def plainOctets : List Char → List Char
  | '%' :: a :: b :: rest =>
    let c := Char.ofNat (Text.naturalIn 16 [a, b])
    if isUnreserved c then c :: plainOctets rest
    else '%' :: a.toUpper :: b.toUpper :: plainOctets rest
  | c :: rest => c :: plainOctets rest
  | [] => []

/-- Small letters, except where they number an octet. -/
def lowered : List Char → List Char
  | '%' :: a :: b :: rest => '%' :: a :: b :: lowered rest
  | c :: rest => c.toLower :: lowered rest
  | [] => []

/-- The steps of a path without those that stay in place or go up; a path that ends in such a step
ends in a slash. -/
def straight (found : List String) : List String → List String
  | [] => found.reverse
  | [step] =>
    if step = "." then ("" :: found).reverse
    else if step = ".." then ("" :: found.drop 1).reverse
    else (step :: found).reverse
  | step :: rest =>
    if step = "." then straight found rest
    else if step = ".." then straight (found.drop 1) rest
    else straight (step :: found) rest

/-- A path that begins with a slash, without detours. -/
def straightPath (path : String) : String :=
  match path.splitOn "/" with
  | "" :: steps => "/" ++ "/".intercalate (straight [] steps)
  | _ => path

/-- An authority with its host in lower case and without a colon that no number follows. -/
def plainAuthority (authority : String) : String :=
  let s := plainOctets authority.toList
  let (user, host) :=
    if s.contains '@' then (s.takeWhile (· != '@') ++ ['@'], (s.dropWhile (· != '@')).drop 1)
    else ([], s)
  let host := lowered host
  String.ofList (user ++ if host.getLast? = some ':' then host.dropLast else host)

def normal (a : Address) : Address :=
  let plain (s : String) : String := String.ofList (plainOctets s.toList)
  let path := plain a.path
  { scheme := a.scheme.map String.toLower
    authority := a.authority.map plainAuthority
    path := if a.scheme.isSome then straightPath path else path
    query := a.query.map plain
    fragment := a.fragment.map plain }

/-- A text as a fragment, with octets by number for all that may not stand in one. -/
def spelled (text : String) : String :=
  let digit (n : Nat) : Char := (Nat.digitChar n).toUpper
  let octet (byte : UInt8) : String :=
    String.ofList ['%', digit (byte.toNat / 16), digit (byte.toNat % 16)]
  String.join (text.toList.map fun c ↦
    if inFragment false c then String.singleton c
    else String.join ((String.singleton c).toUTF8.toList.map octet))

/-! ### Completion -/

/-- Why an address cannot be completed from a base. -/
inductive Clash where
  | baseHasFragment
  | baseIsOpaque

def Clash.message : Clash → String
  | .baseHasFragment => "base should not have fragment"
  | .baseIsOpaque =>
    "when base has a rootless path and no authority, " ++
      "reference should either have scheme, be empty or start with '#'"

/-- The path of a reference put in place of the last step of a base's path. -/
def mergedPath (base : Address) (path : String) : String :=
  if base.authority.isSome && base.path.isEmpty then "/" ++ path
  else "/".intercalate ((base.path.splitOn "/").dropLast ++ [path])

/-- A reference with what it leaves out taken from a base. -/
def completed (base reference : Address) : Address :=
  if reference.scheme.isSome then { reference with path := straightPath reference.path }
  else if reference.authority.isSome then
    { reference with scheme := base.scheme, path := straightPath reference.path }
  else if reference.path.isEmpty then
    { base with
      query := reference.query.or base.query
      fragment := reference.fragment }
  else
    let path :=
      if reference.path.startsWith "/" then reference.path
      else mergedPath base reference.path
    { base with
      path := straightPath path, query := reference.query, fragment := reference.fragment }

/-- An address without a root for its steps, from which nothing but itself can be reached. -/
def isOpaque (a : Address) : Bool :=
  a.authority.isNone && !a.path.startsWith "/"

def isFragmentOnly (a : Address) : Bool :=
  a.scheme.isNone && a.authority.isNone && a.path.isEmpty && a.query.isNone

/-- The normal form of a reference completed from a base. -/
def complete (base reference : Address) : Except Clash Address :=
  if base.fragment.isSome then .error .baseHasFragment
  else if reference.scheme.isNone && base.isOpaque && !reference.isFragmentOnly then
    .error .baseIsOpaque
  else .ok (completed base reference).normal

end Address

end Brokerage.Schema
