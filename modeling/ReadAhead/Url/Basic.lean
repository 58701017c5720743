/-
URLs, in parts, and the one text each is written as. The parts are kept as they
are written: encoded where encoding is due, the default port left out, the path
without dot segments.

A path that no slash begins is rigid: it has no segments and nothing can be
resolved against it.
-/
import ReadAhead.Url.Address

set_option autoImplicit false

namespace ReadAhead

/-- What stands between the slashes and the port. -/
inductive Url.Host where
  | name (text : List Char)
  | v4 (address : Nat)
  | v6 (pieces : List Nat)
  deriving DecidableEq, Repr

inductive Url.Path where
  | rigid (text : List Char)
  | segments (parts : List (List Char))
  deriving DecidableEq, Repr

/-- An absolute URL. -/
structure Url where
  scheme : List Char
  user : List Char
  password : List Char
  host : Option Url.Host
  port : Option Nat
  path : Url.Path
  query : Option (List Char)
  fragment : Option (List Char)
  deriving DecidableEq, Repr

namespace Url

/-! ## Schemes -/

/-- Schemes with rules of their own for hosts, slashes and ports. -/
inductive SchemeKind where
  | file
  | special
  | plain
  deriving DecidableEq, Repr

/-- The port a scheme stands for. -/
def defaultPort? (scheme : List Char) : Option Nat :=
  if scheme = "http".toList ∨ scheme = "ws".toList then some 80
  else if scheme = "https".toList ∨ scheme = "wss".toList then some 443
  else if scheme = "ftp".toList then some 21
  else none

def SchemeKind.ofScheme (scheme : List Char) : SchemeKind :=
  if scheme = "file".toList then .file
  else if (defaultPort? scheme).isSome then .special
  else .plain

/-- Whether the scheme has rules of its own. -/
def SchemeKind.isSpecial : SchemeKind → Bool
  | plain => false
  | file | special => true

/-! ## Writing -/

def Host.print : Host → List Char
  | name text => text
  | v4 address => Ipv4.print address
  | v6 pieces => '[' :: Ipv6.print pieces ++ [']']

def Path.print : Path → List Char
  | rigid text => text
  | segments parts => parts.flatMap ('/' :: ·)

/-- User and password with the sign behind them, if there is either. -/
def printCredentials (u : Url) : List Char :=
  if u.user.isEmpty && u.password.isEmpty then []
  else u.user ++ (if u.password.isEmpty then [] else ':' :: u.password) ++ ['@']

/-- A path that would be taken for a host needs a dot in front. -/
def needsDot (u : Url) : Bool :=
  match u.host, u.path with
  | none, .segments ([] :: _ :: _) => true
  | _, _ => false

/-- Everything up to the path. -/
def printAuthority (u : Url) : List Char :=
  match u.host with
  | some host =>
    "//".toList ++ u.printCredentials ++ host.print ++
      match u.port with
      | some port => ':' :: (toString port).toList
      | none => []
  | none => if u.needsDot then "/.".toList else []

/-- The text of a URL. -/
def print (u : Url) : List Char :=
  u.scheme ++ ':' :: u.printAuthority ++ u.path.print ++
    (match u.query with
      | some query => '?' :: query
      | none => []) ++
    match u.fragment with
    | some fragment => '#' :: fragment
    | none => []

/-- The text of a URL as a string. -/
def text (u : Url) : String := String.ofList u.print

/-- What a request to the server names: path and query. -/
def requestTarget (u : Url) : List Char :=
  (match u.path.print with
    | [] => ['/']
    | path => path) ++
    match u.query with
    | some query => '?' :: query
    | none => []

/-! ## Local files -/

/-- A drive letter: a letter and a colon or bar. -/
def isDrive : List Char → Bool
  | [c, d] => c.isAlpha && (d = ':' || d = '|')
  | _ => false

/-- The bytes of a path end like a drive. -/
def endsInDrive (path : List UInt8) : Bool :=
  match path.reverse with
  | d :: c :: _ :: _ => (d == 58 || d == 124) && (Char.ofNat c.toNat).isAlpha && c < 128
  | _ => false

/-- The path of the local file a URL names, in bytes. There is none if the
file is on another host. A path that ends like a drive is that drive's root. -/
def filePath? (u : Url) : Option (List UInt8) :=
  match u.path with
  | .rigid _ => none
  | .segments parts =>
    if u.host = none ∨ u.host = some (.name []) ∨ u.host = some (.name "localhost".toList) then
      let path := parts.flatMap fun part => 47 :: percentDecode part
      some (if endsInDrive path then path ++ [47] else path)
    else none

end Url

end ReadAhead
