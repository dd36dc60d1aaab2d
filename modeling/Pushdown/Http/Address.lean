import Pushdown.Number.Decimal
import Pushdown.Text.Blank

/-!
# Addresses

An address names a scheme, a host, and what is asked of it: a path, a query and a fragment. Many
texts name the same address, and every address has one **normal text**. Scheme and host are in lower
case, a port that the scheme implies is left out, a host in numbers is four numbers, steps to the
same or to the outer folder are taken, and characters that have no place in an address are written
by the numbers of their bytes. Who is asking is not part of it: what stands before an at sign in
front of the host is left out.

The schemes of the web are read more freely than others. Behind them any number of slashes opens the
host, a backslash is a slash, and a path is never empty.

Parameters are appended to the query in the form encoding: letters, digits and `*-._` stand for
themselves, a blank is a plus, and every other byte of the UTF-8 text is written by its number.
-/

namespace Pushdown.Http

/-! ### Characters by number -/

/-- A byte by its number, two hexadecimal digits behind a percent sign. -/
def encodedByte (b : UInt8) : List Char :=
  ['%', (Number.hexDigit (b.toNat / 16)).toUpper, (Number.hexDigit (b.toNat % 16)).toUpper]

/-- A character by the numbers of its bytes. -/
def encodedBytes (c : Char) : List Char := (String.utf8EncodeChar c).flatMap encodedByte

/-- A text in which control characters, characters beyond ASCII and some others are written by
number. -/
def escapedBy (others : List Char) (cs : List Char) : List Char :=
  cs.flatMap fun c =>
    if c.toNat < 0x20 ∨ 0x7F ≤ c.toNat ∨ c ∈ others then encodedBytes c else [c]

/-- What has no place in a fragment. -/
def outsideFragment : List Char := [' ', '"', '<', '>', '`']

/-- What has no place in a path. -/
def outsidePath : List Char := [' ', '"', '<', '>', '`', '#', '?', '\x7b', '\x7d']

/-- What has no place in a query. -/
def outsideQuery : List Char := [' ', '"', '#', '<', '>']

/-- A character that stands for itself in an encoded parameter. -/
def isPlain (c : Char) : Bool := c.isAlphanum || c == '*' || c == '-' || c == '.' || c == '_'

/-- A character of a parameter. -/
def encodedChar (c : Char) : List Char :=
  if isPlain c then [c]
  else if c = ' ' then ['+']
  else encodedBytes c

/-- **A text as part of a parameter.** -/
def encoded (s : String) : String := String.ofList (s.toList.flatMap encodedChar)

/-- Parameters between ampersands. -/
def queryText (parameters : List (String × String)) : String :=
  "&".intercalate (parameters.map fun p => encoded p.1 ++ "=" ++ encoded p.2)

/-! ### Paths -/

/-- A step with its points written as points. -/
def plainStep : List Char → List Char
  | '%' :: '2' :: c :: cs =>
    if c = 'e' ∨ c = 'E' then '.' :: plainStep cs else '%' :: '2' :: c :: cs
  | c :: cs => c :: plainStep cs
  | [] => []

/-- A step that stays in its folder. -/
def staysInFolder (step : List Char) : Bool := plainStep step == ['.']

/-- A step to the outer folder. -/
def leavesFolder (step : List Char) : Bool := plainStep step == ['.', '.']

/-- A folder that is named like a drive is never left. -/
def isDrive : List Char → Bool
  | [c, d] => c.isAlpha && (d == ':' || d == '|')
  | _ => false

/-- The folder around the innermost of several, which are held innermost first. -/
def outerFolder : List (List Char) → List (List Char)
  | [] => []
  | folder :: around => if isDrive folder then folder :: around else around

/-- **The path that steps lead to**, from inside some folders, innermost first. -/
def pathFrom (folders : List (List Char)) : (steps : List (List Char)) → List Char
  | [] => arriving folders []
  | [last] =>
    if leavesFolder last then arriving (outerFolder folders) []
    else if staysInFolder last then arriving folders []
    else arriving folders last
  | step :: steps =>
    if leavesFolder step then pathFrom (outerFolder folders) steps
    else if staysInFolder step then pathFrom folders steps
    else pathFrom (step :: folders) steps
where
  /-- The path of a name inside folders. -/
  arriving (folders : List (List Char)) (name : List Char) : List Char :=
    '/' :: (folders.reverse.flatMap fun folder => folder ++ ['/']) ++ name

/-- The normal path behind a first slash. -/
def normalPath (cs : List Char) : List Char :=
  pathFrom [] ((Text.splitOn '/' cs).map (escapedBy outsidePath))

/-! ### Hosts -/

/-- A character that no name of a host holds. -/
def outsideHost (c : Char) : Bool :=
  c.toNat ≤ 0x20 || 0x7F ≤ c.toNat ||
    ['#', '%', '/', ':', '<', '>', '?', '@', '[', '\\', ']', '^', '|'].contains c

/-- The number that digits to a base write, nothing if one is no digit. -/
def numberToBase (base : Nat) (cs : List Char) : Option Nat :=
  cs.foldlM (fun n c => do
    let d ← Number.hexValue? c
    if d < base then some (n * base + d) else none) 0

/-- A number in a host: hexadecimal behind `0x`, octal behind another zero, else decimal. -/
def hostNumber? : List Char → Option Nat
  | [] => none
  | '0' :: c :: cs => if c = 'x' then numberToBase 16 cs else numberToBase 8 (c :: cs)
  | cs => numberToBase 10 cs

/-- The bytes of a number, a given count of them, the most significant first. -/
def bytesOf : (count : Nat) → Nat → List Nat
  | 0, _ => []
  | count + 1, n => bytesOf count (n / 256) ++ [n % 256]

/-- A number has no more than a given count of bytes. -/
def fitsBytes : (count : Nat) → Nat → Bool
  | 0, n => n == 0
  | count + 1, n => fitsBytes count (n / 256)

/-- The bytes of a host in numbers: each number is one byte, but the last fills all that are
left. -/
def hostBytes? : (left : Nat) → List Nat → Option (List Nat)
  | left, [n] => if fitsBytes left n then some (bytesOf left n) else none
  | left + 1, n :: ns => if n < 256 then (hostBytes? left ns).map (n :: ·) else none
  | _, _ => none

/-- The parts of a host's name; a point at the end is left out. -/
def hostParts (cs : List Char) : List (List Char) :=
  match (Text.splitOn '.' cs).reverse with
  | [] :: rest@(_ :: _) => rest.reverse
  | parts => parts.reverse

/-- A host that ends in a number is a host in numbers. -/
def endsInNumber (cs : List Char) : Bool :=
  (hostParts cs).getLast?.any fun part =>
    (part != [] && part.all Char.isDigit) ||
      match part with
      | '0' :: 'x' :: digits => (numberToBase 16 digits).isSome
      | _ => false

/-- The normal text of a host in numbers. -/
def numericHost? (cs : List Char) : Option (List Char) := do
  let numbers ← (hostParts cs).mapM hostNumber?
  let bytes ← hostBytes? 4 numbers
  return (".".intercalate (bytes.map fun n : Nat => Number.intText n)).toList

/-- A host of the newer kind of numbers stands in brackets. -/
def bracketedHost? (cs : List Char) : Option (List Char) :=
  let inner := (cs.drop 1).dropLast
  let fits (c : Char) : Bool := (Number.hexValue? c).isSome || c == ':' || c == '.'
  if cs.getLast? = some ']' ∧ 2 ≤ inner.count ':' ∧ inner.all fits then some (cs.map Char.toLower)
  else none

/-- **The normal text of a host**: of the web, in which case may not count, or of another scheme. -/
def normalHost? (web : Bool) (cs : List Char) : Option (List Char) :=
  if cs.head? = some '[' then bracketedHost? cs
  else if cs.any outsideHost then none
  else if !web then some cs
  else if cs.isEmpty then none
  else
    let cs := cs.map Char.toLower
    if endsInNumber cs then numericHost? cs else some cs

/-- The host and what follows it: a colon outside of brackets ends it. -/
def splitHost : (inBrackets : Bool) → List Char → List Char × List Char
  | _, [] => ([], [])
  | inBrackets, c :: cs =>
    if c = ':' ∧ !inBrackets then ([], c :: cs)
    else
      let (host, rest) := splitHost (c = '[' ∨ (inBrackets ∧ c ≠ ']')) cs
      (c :: host, rest)

/-- The text of a port, nothing for the one that is implied. -/
def normalPort? (implied : Option Nat) : List Char → Option (List Char)
  | [] => some []
  | _ :: digits =>
    if !digits.all Char.isDigit then none
    else
      let n := Number.ofDigits digits
      if 65535 < n then none
      else if digits.isEmpty ∨ implied = some n then some []
      else some (':' :: (Number.intText n).toList)

/-- What stands behind the last at sign. -/
def behindAt (cs : List Char) : List Char := (cs.reverse.takeWhile (· != '@')).reverse

/-- **The normal text of a host with its port.** -/
def normalAuthority? (web : Bool) (implied : Option Nat) (cs : List Char) : Option (List Char) := do
  let (host, port) := splitHost false (behindAt cs)
  let host ← normalHost? web host
  let port ← normalPort? implied port
  if host.isEmpty ∧ !port.isEmpty then none else return host ++ port

/-! ### Addresses -/

/-- **An address.** -/
structure Address where
  /-- The scheme. -/
  scheme : String
  /-- The host with its port, behind two slashes, if there is one. -/
  host : Option String
  /-- The path. -/
  path : String
  /-- The query. -/
  query : Option String
  /-- The fragment. -/
  fragment : Option String
  deriving DecidableEq, Repr

/-- The schemes whose addresses are read freely, with the ports they imply. -/
def webSchemes : List (String × Nat) :=
  [("http", 80), ("https", 443), ("ws", 80), ("wss", 443), ("ftp", 21)]

namespace Address

/-- The scheme that a text names, in lower case, and what follows its colon. -/
def schemeOf? (cs : List Char) : Option (String × List Char) :=
  let ofScheme (c : Char) : Bool := c.isAlphanum || c == '+' || c == '-' || c == '.'
  match cs.takeWhile ofScheme, cs.dropWhile ofScheme with
  | c :: name, ':' :: rest =>
    if c.isAlpha then some (String.ofList ((c :: name).map Char.toLower), rest) else none
  | _, _ => none

/-- A text cut where a query or a fragment begins. -/
def cutPath (cs : List Char) : List Char × List Char :=
  cs.span fun c => c != '?' && c != '#'

/-- The query and the fragment, behind the path. -/
def tailOf (web : Bool) (cs : List Char) : Option String × Option String :=
  let escapedText (others : List Char) (cs : List Char) := String.ofList (escapedBy others cs)
  let fragmentOf : List Char → Option String
    | '#' :: cs => some (escapedText outsideFragment cs)
    | _ => none
  match cs with
  | '?' :: cs =>
    let others := if web then '\'' :: outsideQuery else outsideQuery
    (some (escapedText others (cs.takeWhile (· != '#'))), fragmentOf (cs.dropWhile (· != '#')))
  | cs => (none, fragmentOf cs)

/-- An address of the web, behind the colon of its scheme. -/
def webAddress? (scheme : String) (implied : Nat) (cs : List Char) : Option Address := do
  let (place, rest) := cutPath cs
  let slashed := (place.map fun c => if c = '\\' then '/' else c).dropWhile (· == '/')
  let (authority, path) := slashed.span (· != '/')
  let host ← normalAuthority? true (some implied) authority
  let (query, fragment) := tailOf true rest
  return ⟨scheme, some (String.ofList host), String.ofList (normalPath (path.drop 1)), query,
    fragment⟩

/-- The path of an address of another scheme: one that starts with a slash has folders. -/
def otherPath : List Char → List Char
  | '/' :: cs => normalPath cs
  | cs => escapedBy [] cs

/-- An address of another scheme, behind its colon. -/
def otherAddress? (scheme : String) (cs : List Char) : Option Address := do
  let (place, rest) := cutPath cs
  let (query, fragment) := tailOf false rest
  match place with
  | '/' :: '/' :: cs =>
    let (authority, path) := cs.span (· != '/')
    let host ← normalAuthority? false none authority
    return ⟨scheme, some (String.ofList host), String.ofList (otherPath path), query, fragment⟩
  | path => return ⟨scheme, none, String.ofList (otherPath path), query, fragment⟩

/-- **The address that a text names.** Blanks around it, tabs and line ends do not count. -/
def read? (text : String) : Option Address := do
  let blank (c : Char) : Bool := c.toNat ≤ 0x20
  let trimmed := ((text.toList.dropWhile blank).reverse.dropWhile blank).reverse
  let (scheme, rest) ← schemeOf? (trimmed.filter fun c => !(['\t', '\n', '\r'].contains c))
  match webSchemes.find? (·.1 == scheme) with
  | some (_, implied) => webAddress? scheme implied rest
  | none => otherAddress? scheme rest

/-- **The normal text of an address.** -/
def text (a : Address) : String :=
  let behind (mark : String) (part : Option String) : String := (part.map (mark ++ ·)).getD ""
  a.scheme ++ ":" ++ behind "//" a.host ++ a.path ++ behind "?" a.query ++ behind "#" a.fragment

/-- A request can be sent to the address. -/
def isReachable (a : Address) : Bool := a.scheme == "http" || a.scheme == "https"

/-- **An address with parameters.** They follow those that the address has already; a query that is
empty all the same is left out. -/
def withParameters (a : Address) (parameters : List (String × String)) : Address :=
  let parts := [a.query.getD "", queryText parameters].filter (· != "")
  { a with query := if parts.isEmpty then none else some ("&".intercalate parts) }

end Address

end Pushdown.Http
