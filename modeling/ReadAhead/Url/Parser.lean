/-
Reading URLs the way browsers do: forgiving about slashes, blanks around the
text and line breaks within it, strict about hosts and ports. Only absolute
URLs are read; a text without a scheme is a reference to something else.

The reader goes from left to right, and each part says where it ends: the
scheme at the first colon, the authority at the first slash, question mark or
hash, the path at the latter two, the query at the hash.

Tabs and line breaks do not count, with one exception: behind a drive at the
start of a file path, a break ends the drive.
-/
import ReadAhead.Failure
import ReadAhead.Url.Basic
import ReadAhead.Url.Domain

set_option autoImplicit false

namespace ReadAhead.Url

open Text

/-! ## Cleaning and the scheme -/

/-- Control characters and spaces, which do not count at the ends. -/
def isPadding (c : Char) : Bool := c.toNat ≤ 0x20

/-- Tabs and line breaks. -/
def isBreak (c : Char) : Bool := c = '\t' || c = '\n' || c = '\r'

/-- The text without padding around it. -/
def trimPadding (cs : List Char) : List Char :=
  ((cs.dropWhile isPadding).reverse.dropWhile isPadding).reverse

/-- The text without breaks. -/
def withoutBreaks (cs : List Char) : List Char := cs.filter (!isBreak ·)

/-- The first character that counts, and what follows it. -/
def next? (cs : List Char) : Option (Char × List Char) :=
  match cs.dropWhile isBreak with
  | [] => none
  | c :: rest => some (c, rest)

def isSchemeChar (c : Char) : Bool := c.isAlphanum || c = '+' || c = '-' || c = '.'

/-- The scheme in lower case, and what follows the colon, breaks and all. -/
def scheme? (cs : List Char) : Option (List Char × List Char) :=
  let inScheme (c : Char) : Bool := isSchemeChar c || isBreak c
  let scheme := withoutBreaks (cs.takeWhile inScheme)
  match scheme, cs.dropWhile inScheme with
  | c :: _, ':' :: rest => if c.isAlpha then some (scheme.map Text.lowerAscii, rest) else none
  | _, _ => none

/-! ## Authority -/

/-- The authority ends here. -/
def endsAuthority (special : Bool) (c : Char) : Bool :=
  c = '/' || c = '?' || c = '#' || (special && c = '\\')

/-- User, password and what follows the last at sign of the authority. -/
def credentials (special : Bool) (input : List Char) :
    Except UrlFault (List Char × List Char × List Char) :=
  let authority := input.takeWhile (!endsAuthority special ·)
  if !authority.contains '@' then .ok ([], [], input)
  else
    let behind := (authority.reverse.takeWhile (· ≠ '@')).length
    let info := authority.take (authority.length - behind - 1)
    let rest := input.drop (authority.length - behind)
    if info.isEmpty && (rest.head?.any (endsAuthority special)) then .error .emptyHost
    else
      let user := info.takeWhile (· ≠ ':')
      let password := (info.dropWhile (· ≠ ':')).drop 1
      .ok (percentEncode .userinfo user, percentEncode .userinfo password, rest)

/-- The host's text, and what follows it. A colon between brackets belongs to it. -/
def hostSpan (special : Bool) : Bool → List Char → List Char × List Char
  | _, [] => ([], [])
  | inside, c :: rest =>
    if (c = ':' && !inside) || endsAuthority special c then ([], c :: rest)
    else
      let inside := if c = '[' then true else if c = ']' then false else inside
      let (host, rest) := hostSpan special inside rest
      (c :: host, rest)

/-- An address in brackets. -/
def bracketed (cs : List Char) : Except UrlFault Host :=
  if cs.getLast? = some ']' then
    match Ipv6.parse? (cs.drop 1).dropLast with
    | some pieces => .ok (.v6 pieces)
    | none => .error .invalidIpv6
  else .error .invalidIpv6

/-- The host of a scheme with rules of its own. -/
def specialHost (cs : List Char) : Except UrlFault Host :=
  if cs.head? = some '[' then bracketed cs
  else
    match Domain.ofBytes? (percentDecode cs) with
    | none => .error .invalidDomain
    | some [] => .error .emptyHost
    | some name =>
      if Ipv4.isExpected name then
        match Ipv4.parse? name with
        | some address => .ok (.v4 address)
        | none => .error .invalidIpv4
      else .ok (.name name)

/-- Characters that the host of any other scheme may not hold. -/
def isForbiddenInHost (c : Char) : Bool :=
  "\x00\t\n\r #/:<>?@[\\]^|".toList.contains c

/-- The host of any other scheme, which may be empty. -/
def plainHost (cs : List Char) : Except UrlFault Host :=
  if cs.head? = some '[' then bracketed cs
  else if cs.any isForbiddenInHost then .error .invalidDomainCharacter
  else .ok (.name (percentEncode .controls cs))

/-- The digits of a port. The value is capped where it stops fitting. -/
def portValue (digits : List Char) : Nat :=
  digits.foldl (fun acc c => min (10 * acc + (c.toNat - '0'.toNat)) 65536) 0

/-- The port behind the colon, and what follows it. -/
def readPort (scheme : List Char) (input : List Char) : Except UrlFault (Option Nat × List Char) :=
  let digits := input.takeWhile Ipv4.isDecimal
  let rest := input.drop digits.length
  let value := portValue digits
  if 65535 < value then .error .invalidPort
  else if rest.head?.any (!endsAuthority true ·) then .error .invalidPort
  else if digits.isEmpty ∨ defaultPort? scheme = some value then .ok (none, rest)
  else .ok (some value, rest)

/-! ## Path -/

/-- A segment that stands for its own directory. -/
def isDot (segment : List Char) : Bool :=
  let s := segment.map Text.lowerAscii
  s = ".".toList || s = "%2e".toList

/-- A segment that stands for the directory above. -/
def isDotDot (segment : List Char) : Bool :=
  let s := segment.map Text.lowerAscii
  s = "..".toList || s = ".%2e".toList || s = "%2e.".toList || s = "%2e%2e".toList

/-- The segment is a drive, alone or with something behind a backslash. -/
def holdsDrive : List Char → Bool
  | [c, d] => isDrive [c, d]
  | c :: d :: '\\' :: _ => isDrive [c, d]
  | _ => false

/-- The path one directory up. A drive stays. -/
def shorten (parts : List (List Char)) : List (List Char) :=
  if parts.getLast?.any holdsDrive then parts else parts.dropLast

/-- A path as far as it was read. -/
structure Trail where
  parts : List (List Char)
  /-- It started with a drive, which is on no host. -/
  onDrive : Bool
  deriving DecidableEq, Repr

/-- A drive and what follows it, if there is a break between them. -/
def brokenDrive? (raw : List Char) : Option (List Char × List Char) := do
  let (letter, rest) ← next? raw
  let (colon, rest) ← next? rest
  let more := withoutBreaks rest
  guard (letter.isAlpha && colon = ':' && rest.head?.any isBreak && !more.isEmpty)
  return ([letter, ':'], more)

/-- Adds a raw segment. The first one of a file path may be a drive, which gets
its colon, or start with one, which then is a segment of its own. -/
def Trail.add (file : Bool) (t : Trail) (raw : List Char) : Trail :=
  let text := withoutBreaks raw
  if file && t.parts.isEmpty then
    if isDrive text then { parts := [text.take 1 ++ [':']], onDrive := true }
    else match brokenDrive? raw with
      | some (drive, rest) => { t with parts := [drive, percentEncode .path rest] }
      | none => { t with parts := [percentEncode .path text] }
  else { t with parts := t.parts ++ [percentEncode .path text] }

/-- Follows raw segments. Dot segments are resolved as they come; the last one
leaves an empty segment behind, because it names a directory. -/
def Trail.follow (file : Bool) (t : Trail) : List (List Char) → Trail
  | [] => t
  | [raw] =>
    let text := withoutBreaks raw
    if isDotDot text then { t with parts := shorten t.parts ++ [[]] }
    else if isDot text then { t with parts := t.parts ++ [[]] }
    else t.add file raw
  | raw :: rest =>
    let text := withoutBreaks raw
    if isDotDot text then { t with parts := shorten t.parts }.follow file rest
    else if isDot text then t.follow file rest
    else (t.add file raw).follow file rest

/-- The path ends here. -/
def endsPath (c : Char) : Bool := c = '?' || c = '#'

/-- A character between segments. -/
def isSlash (special : Bool) (c : Char) : Bool := c = '/' || (special && c = '\\')

/-- The trail of a path whose first slash is gone. -/
def trail (kind : SchemeKind) (text : List Char) : Trail :=
  { parts := [], onDrive := false : Trail }.follow (kind = .file)
    (splitOn (isSlash kind.isSpecial) text)

/-- The path behind an authority. -/
def hierarchicalPath (kind : SchemeKind) (text : List Char) : Path :=
  match text with
  | [] => .segments (if kind.isSpecial then [[]] else [])
  | c :: rest =>
    .segments (trail kind (if isSlash kind.isSpecial c then rest else c :: rest)).parts

/-! ## Query and fragment -/

/-- The query of a text that starts with one. -/
def query? (special : Bool) : List Char → Option (List Char)
  | '?' :: rest =>
    let set : ByteSet := if special then .specialQuery else .query
    some (percentEncode set (rest.takeWhile (· ≠ '#')))
  | _ => none

/-- The fragment of a text, behind its first hash. -/
def fragment? (input : List Char) : Option (List Char) :=
  (Text.cutAt '#' input).map fun (_, rest) => percentEncode .fragment rest

/-! ## The whole -/

/-- A URL whose part up to the path is known. -/
def finish (kind : SchemeKind) (scheme user password : List Char) (host : Option Host)
    (port : Option Nat) (path : Path) (rest : List Char) : Url :=
  { scheme, user, password, host, port, path
    query := query? kind.isSpecial rest
    fragment := fragment? rest }

/-- Reads on behind the two slashes. -/
def withAuthority (kind : SchemeKind) (scheme input : List Char) : Except UrlFault Url := do
  let special := kind.isSpecial
  let (user, password, rest) ← credentials special input
  let (hostText, rest) := hostSpan special false rest
  if special ∧ hostText.isEmpty then throw .emptyHost
  let host ← if special then specialHost hostText else plainHost hostText
  if hostText.isEmpty ∧ (rest.head? = some ':' ∨ ¬ (user.isEmpty ∧ password.isEmpty)) then
    throw .emptyHost
  let (number, rest) ← match rest with
    | ':' :: digits => readPort scheme digits
    | _ => .ok (none, rest)
  let path := hierarchicalPath kind (rest.takeWhile (!endsPath ·))
  return finish kind scheme user password (some host) number path (rest.dropWhile (!endsPath ·))

/-- The host of a file URL, if there is one, and what follows it. A drive is not
a host, and the local host is no host. -/
def fileHost (input : List Char) : Except UrlFault (Option Host × List Char) :=
  let raw := input.takeWhile (!endsAuthority true ·)
  let text := withoutBreaks raw
  if isDrive text then .ok (none, input)
  else if text.isEmpty then .ok (none, input.drop raw.length)
  else do
    let host ← specialHost text
    let rest := input.drop raw.length
    if host = .name "localhost".toList then return (none, rest) else return (some host, rest)

/-- A file path has no empty segments in front. -/
def withoutEmptyFront (parts : List (List Char)) : List (List Char) :=
  match parts.dropWhile List.isEmpty with
  | [] => [[]]
  | kept => kept

/-- A file URL from what follows its host. A host is dropped if the path starts
with a drive. -/
def ofFilePath (scheme : List Char) (host : Option Host) (t : Trail) (rest : List Char) : Url :=
  finish .file scheme [] [] (some (if t.onDrive then .name [] else host.getD (.name []))) none
    (.segments (withoutEmptyFront t.parts)) rest

/-- Drops a slash in front. -/
def dropSlash (input : List Char) : List Char :=
  match next? input with
  | some (c, rest) => if isSlash true c then rest else input
  | none => input

/-- The host of a file URL and the path behind it. Only two slashes announce a
host. Where there is one the slash in front of the path belongs to neither;
where there could have been one it leaves an empty segment. -/
def fileParts (input : List Char) : Except UrlFault (Option Host × List Char) := do
  match next? input with
  | some (a, rest) =>
    match next? rest with
    | some (b, behind) =>
      if isSlash true a && isSlash true b then
        match ← fileHost behind with
        | (some host, path) => return (some host, dropSlash path)
        | (none, path) => return (none, path)
      else return (none, dropSlash input)
    | none => return (none, dropSlash input)
  | none => return (none, input)

/-- Reads on behind `file:`. -/
def ofFile (scheme input : List Char) : Except UrlFault Url := do
  let (host, rest) ← fileParts input
  let t := trail .file (rest.takeWhile (!endsPath ·))
  return ofFilePath scheme host t (withoutBreaks (rest.dropWhile (!endsPath ·)))

/-- Reads on behind the colon of a scheme without rules of its own. -/
def ofPlain (scheme input : List Char) : Except UrlFault Url :=
  match input with
  | '/' :: '/' :: rest => withAuthority .plain scheme rest
  | _ =>
    let text := input.takeWhile (!endsPath ·)
    let path := match text with
      | '/' :: rest => .segments (trail .plain rest).parts
      | _ => .rigid (percentEncode .controls text)
    .ok (finish .plain scheme [] [] none none path (input.dropWhile (!endsPath ·)))

/-- Reads an absolute URL. -/
def parse (text : List Char) : Except UrlFault Url :=
  match scheme? (trimPadding text) with
  | none => .error .relativeWithoutBase
  | some (scheme, rest) =>
    match SchemeKind.ofScheme scheme with
    | .file => ofFile scheme rest
    | .special => withAuthority .special scheme ((withoutBreaks rest).dropWhile (isSlash true))
    | .plain => ofPlain scheme (withoutBreaks rest)

/-- Reads an absolute URL from a string. -/
def ofString (text : String) : Except UrlFault Url := parse text.toList

end ReadAhead.Url
