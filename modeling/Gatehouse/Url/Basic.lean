import Gatehouse.Url.Host
import Gatehouse.Url.Path

/-!
# Addresses of services

An address has a scheme, and for most schemes a host and perhaps a user and a port. It is read into
the form in which it is sent and shown: the host in plain form, no port that the scheme implies,
and a path without steps.
-/
namespace Gatehouse

namespace Url

/-- Who is addressed where. -/
structure Authority where
  user : List Char
  password : Option (List Char)
  host : Host
  port : Option Nat

end Url

structure Url where
  scheme : List Char
  authority : Option Url.Authority
  path : List Char
  query : Option (List Char)
  fragment : Option (List Char)

namespace Url

/-! ## Texts -/

/-- A part behind its mark, if it is there. -/
def marked (mark : Char) (part : Option (List Char)) : List Char :=
  match part with
  | some part => mark :: part
  | none => []

namespace Authority

/-- The host, and the port unless it goes without saying. -/
def hostAndPort (authority : Authority) : List Char :=
  authority.host.text ++ marked ':' (authority.port.map (Nat.toDigits 10))

def userText (authority : Authority) : List Char :=
  match authority.user, authority.password with
  | [], none => []
  | user, password => user ++ marked ':' password ++ ['@']

def text (authority : Authority) : List Char := authority.userText ++ authority.hostAndPort

end Authority

/-- What a request asks the host for. -/
def target (url : Url) : List Char := url.path ++ marked '?' url.query

/-- An address on one line. A path that begins with two slashes would be read as a host, so without
one it begins with a point. -/
def text (url : Url) : List Char :=
  let place :=
    match url.authority, url.path with
    | some authority, _ => '/' :: '/' :: authority.text
    | none, '/' :: '/' :: _ => ['/', '.']
    | none, _ => []
  url.scheme ++ ':' :: place ++ url.target ++ marked '#' url.fragment

/-- The host of an address and its port, as far as they are told. -/
def hostAndPort (url : Url) : List Char := (url.authority.map (·.hostAndPort)).getD []

def hasHost (url : Url) : Bool := url.authority.any fun authority => !authority.host.isEmpty

/-! ## Users, hosts and ports -/

/-- What stands before and after the last at sign of an authority, if there is one. -/
def splitUser (authority : List Char) : Option (List Char × List Char) :=
  if authority.contains '@' then
    let host := (authority.reverse.takeWhile (· != '@')).reverse
    some (authority.take (authority.length - host.length - 1), host)
  else none

/-- The characters of a host: up to a colon outside of brackets. -/
def hostPart : Bool → List Char → List Char
  | _, [] => []
  | bracketed, c :: rest =>
    if c == ':' && !bracketed then []
    else c :: hostPart (c == '[' || (bracketed && c != ']')) rest

/-- The number of a port. -/
def portNumber (digits : List Char) : Except Fault (Option Nat) :=
  let number := Digits.number 10 digits
  if digits.isEmpty then .ok none
  else if digits.all Char.isDigit ∧ number ≤ 65535 then .ok (some number)
  else .error .badPort

/-- User and password before the at sign. An empty password is none. -/
def readUser (text : List Char) : List Char × Option (List Char) :=
  let user := text.takeWhile (· != ':')
  match text.drop (user.length + 1) with
  | [] => (escape isMarkedInUser user, none)
  | password => (escape isMarkedInUser user, some (escape isMarkedInUser password))

/-- Host and port, and what follows them. Only schemes of no known kind may do without a host. A
backslash ends the port for every scheme. -/
def readHost (kind : Kind) (scheme text : List Char) (needsHost : Bool) :
    Except Fault ((Host × Option Nat) × List Char) := do
  let inside := text.takeWhile fun c => !endsAuthority kind c
  let name := hostPart false inside
  let rest := text.drop name.length
  let host ← if name.isEmpty then pure (Host.name []) else
    if kind = .plain then Host.parseOpaque name else Host.parse name
  if name.isEmpty ∧ (kind ≠ .plain ∨ rest.head? = some ':' ∨ needsHost) then throw .emptyHost
  match rest with
  | ':' :: behind =>
    let digits := behind.takeWhile fun c => !endsAuthority .web c
    let port ← portNumber digits
    let shown := if port = impliedPort? scheme then none else port
    return ((host, shown), behind.drop digits.length)
  | _ => return ((host, none), rest)

/-- User, host and port. A user with no name needs a host all the more. -/
def readAuthority (kind : Kind) (scheme text : List Char) :
    Except Fault (Authority × List Char) := do
  let inside := text.takeWhile fun c => !endsAuthority kind c
  match splitUser inside with
  | none =>
    let ((host, port), rest) ← readHost kind scheme text false
    return (⟨[], none, host, port⟩, rest)
  | some (user, _) =>
    let behind := text.drop (user.length + 1)
    if user.isEmpty ∧ behind.head?.any (endsAuthority kind) then throw .emptyHost
    let (name, password) := readUser user
    let ((host, port), rest) ← readHost kind scheme behind (!name.isEmpty || password.isSome)
    return (⟨name, password, host, port⟩, rest)

/-! ## Reading -/

/-- A text up to a mark, and what follows the mark if it is there. -/
def cutAt (mark : Char) (text : List Char) : List Char × Option (List Char) :=
  match text.dropWhile (· != mark) with
  | [] => (text, none)
  | _ :: rest => (text.takeWhile (· != mark), some rest)

/-- What follows the authority: the path as it is written, query and fragment. -/
structure Tail where
  path : List Char
  query : Option (List Char)
  fragment : Option (List Char)

def Tail.read (kind : Kind) (text : List Char) : Tail :=
  let (text, fragment) := cutAt '#' text
  let (path, query) := cutAt '?' text
  { path := path
    query := query.map (escape (if kind = .plain then isMarkedInQuery else isMarkedInWebQuery))
    fragment := fragment.map (escape isMarkedInFragment) }

/-- An address with host, from what follows its two slashes. -/
def readNamed (kind : Kind) (scheme text : List Char) : Except Fault Url := do
  let (authority, rest) ← readAuthority kind scheme text
  let tail := Tail.read kind rest
  return ⟨scheme, some authority, slashed (pathBehindHost kind tail.path), tail.query,
    tail.fragment⟩

/-- An address without host. Its path is a text of its own unless it begins with a slash. -/
def readUnnamed (scheme text : List Char) : Url :=
  let tail := Tail.read .plain text
  let path :=
    match tail.path with
    | '/' :: rest => slashed (segments .plain rest)
    | path => escape (fun _ => false) path
  ⟨scheme, none, path, tail.query, tail.fragment⟩

def nowhere : Host := .name []

/-- The host of a file and what follows it. This machine is no host, and neither is a drive. -/
def readFileHost (text : List Char) : Except Fault (Host × List Char) := do
  let name := text.takeWhile fun c => !endsAuthority .file c
  if name.isEmpty || isDrive name then return (nowhere, text)
  let host ←
    match ← Host.parse name with
    | .name text => pure (if text = "localhost".toList then nowhere else .name text)
    | host => pure host
  return (host, text.drop name.length)

/-- The address of a file on a host. A path that begins with a drive has no host. -/
def fileAt (host : Host) (segments : List (List Char)) (tail : Tail) : Url :=
  let host := if segments.head?.any isDrive then nowhere else host
  ⟨"file".toList, some ⟨[], none, host, none⟩, slashed (filePath segments), tail.query,
    tail.fragment⟩

/-- A file's address may name a host behind two slashes. -/
def readFile (text : List Char) : Except Fault Url := do
  let behind? := behindSlash? .file text
  match behind?.bind (behindSlash? .file) with
  | some rest =>
    let (host, rest) ← readFileHost rest
    let tail := Tail.read .file rest
    let segments :=
      if host.isEmpty then segments .file tail.path else pathBehindHost .file tail.path
    return fileAt host segments tail
  | none =>
    let tail := Tail.read .file (behind?.getD text)
    return fileAt nowhere (segments .file tail.path) tail

/-- The address that a text is, or why it is none. -/
def parse (text : List Char) : Except Fault Url :=
  match splitScheme (significant text) with
  | none => .error .relative
  | some (scheme, rest) =>
    match kindOf scheme, rest with
    | .file, rest => readFile rest
    | .web, rest => readNamed .web scheme (rest.dropWhile (isSlash .web))
    | .plain, '/' :: '/' :: rest => readNamed .plain scheme rest
    | .plain, rest => .ok (readUnnamed scheme rest)

end Url

end Gatehouse
