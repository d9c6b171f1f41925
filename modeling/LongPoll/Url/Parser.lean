import LongPoll.Text.Blank
import LongPoll.Url.Domain
import LongPoll.Url.Path

/-!
Reading addresses.

White space and control characters around the text, and tabs and line ends inside it, are dropped.
The rest is split from the outside in: the fragment after the first `#`, the query after the first
`?`, the scheme before the first colon, the authority between two slashes and the next one.
-/

namespace LongPoll.Url

/-- The text without what surrounds an address and what may stray into it. -/
def cleaned (text : List Char) : List Char :=
  (Text.trimBy (fun c => c.toNat ≤ 0x20) text).filter fun c => !isStray c

/-- The text before the first `mark`, and the text after it if there is one. -/
def splitAtFirst (mark : Char) (text : List Char) : List Char × Option (List Char) :=
  match text.dropWhile (· != mark) with
  | [] => (text, none)
  | _ :: after => (text.takeWhile (· != mark), some after)

/-- A character of a scheme, after its first. -/
def isSchemeChar (c : Char) : Bool := c.isAlphanum || c == '+' || c == '-' || c == '.'

/-- The scheme in lower case, and what follows its colon. -/
def splitScheme? (text : List Char) : Option (List Char × List Char) :=
  match splitAtFirst ':' text with
  | (scheme, some rest) =>
    if scheme.head?.any Char.isAlpha && scheme.all isSchemeChar then
      some (scheme.map Char.toLower, rest)
    else none
  | (_, none) => none

/-! ### The authority -/

/-- The text before the last `@`, and the text after it. -/
def splitUserinfo (authority : List Char) : Option (List Char) × List Char :=
  match authority.reverse.dropWhile (· != '@') with
  | [] => (none, authority)
  | _ :: before => (some before.reverse, (authority.reverse.takeWhile (· != '@')).reverse)

/-- The user and the password as written, with the separator. -/
def writtenUserinfo (text : List Char) : List Char :=
  let (user, password) := splitAtFirst ':' text
  let secret := (password.getD []).flatMap fun c => Text.Percent.encode reservedInUserinfo [c]
  let written :=
    Text.Percent.encode reservedInUserinfo user ++ if secret.isEmpty then [] else ':' :: secret
  if written.isEmpty then [] else written ++ ['@']

/-- The host, and what follows from the first colon outside brackets on. -/
def splitHost (inBrackets : Bool) : List Char → List Char × List Char
  | [] => ([], [])
  | c :: cs =>
    if c = ':' ∧ !inBrackets then ([], c :: cs)
    else
      let inside := if c = '[' then true else if c = ']' then false else inBrackets
      let (host, rest) := splitHost inside cs
      (c :: host, rest)

/-- Read a port: digits up to the end or a backslash. The standard port is left out. -/
def readPort (standard : Option Nat) (text : List Char) : Except Fault (Option Nat × List Char) :=
  let digits := text.takeWhile Char.isDigit
  let rest := text.dropWhile Char.isDigit
  let port := digits.foldl (fun n c => n * 10 + (c.toNat - '0'.toNat)) 0
  if 65535 < port then .error .badPort
  else if !rest.isEmpty && rest.head? != some '\\' then .error .badPort
  else if digits.isEmpty ∨ some port = standard then .ok (none, rest)
  else .ok (some port, rest)

/-- Read an authority; `follows` says whether anything comes after it. What of the text is not part
of the authority is returned. -/
def readAuthority (scheme text : List Char) (follows : Bool) :
    Except Fault (Authority × List Char) := do
  let (user, hostAndPort) := splitUserinfo text
  if user = some [] ∧ hostAndPort = [] ∧ follows then throw .emptyHost
  let userinfo := (user.map writtenUserinfo).getD []
  let (hostText, portText) := splitHost false hostAndPort
  if isSpecial scheme ∧ hostText = [] then throw .emptyHost
  let host ← if isSpecial scheme then readHost hostText else readOtherHost hostText
  if host = .domain [] ∧ (portText ≠ [] ∨ userinfo ≠ []) then throw .emptyHost
  match portText with
  | [] => return (⟨userinfo, host, none⟩, [])
  | _ :: digits =>
    let (port, rest) ← readPort (standardPort? scheme) digits
    return (⟨userinfo, host, port⟩, rest)

/-! ### What follows the scheme -/

def readPath (scheme text : List Char) : Path :=
  match text with
  | [] => .segments false (if isSpecial scheme then [[]] else [])
  | c :: rest =>
    if isSlash (isSpecial scheme) c then .segments false (readSegments scheme rest)
    else .segments false (readSegments scheme text)

/-- Read an authority and the path after it. -/
def readFull (scheme text : List Char) (more : Bool) : Except Fault (Authority × Path) := do
  let inAuthority := fun c => !isSlash (isSpecial scheme) c
  let after := text.dropWhile inAuthority
  let (authority, rest) ←
    readAuthority scheme (text.takeWhile inAuthority) (more || !after.isEmpty)
  return (authority, readPath scheme (rest ++ after))

def nowhere : Authority := ⟨[], .domain [], none⟩

def readFileHost (text : List Char) : Except Fault Host :=
  if text = [] then .ok (.domain [])
  else
    (readHost text).map fun host => if host = .domain "localhost".toList then .domain [] else host

/-- The path, written with its first slash, begins with a drive. -/
def onDrive (scheme : List Char) : List Char → Bool
  | [] => false
  | _ :: rest => (describedSegments scheme rest).head?.any isDrive

/-- Read what follows the scheme of a file. A drive has no host. -/
def readFile (scheme text : List Char) : Except Fault (Authority × Path) :=
  let slash := isSlash true
  match text with
  | a :: b :: rest =>
    if slash a && slash b then
      let hostText := rest.takeWhile fun c => !slash c
      if isDrive hostText then .ok (nowhere, .segments false (readSegments scheme rest))
      else do
        let host ← readFileHost hostText
        let path := rest.dropWhile fun c => !slash c
        return (if onDrive scheme path then nowhere else ⟨[], host, none⟩, readPath scheme path)
    else .ok (nowhere, readPath scheme text)
  | _ => .ok (nowhere, readPath scheme text)

/-- The segments would be taken for an authority. -/
def looksFull : List (List Char) → Bool
  | [] :: _ :: _ => true
  | _ => false

/-- Read what follows a scheme that is not special. -/
def readOther (scheme text : List Char) (more : Bool) : Except Fault (Option Authority × Path) :=
  match text with
  | '/' :: '/' :: rest => (readFull scheme rest more).map fun r => (some r.1, r.2)
  | '/' :: rest =>
    let segments := readSegments scheme rest
    .ok (none, .segments (looksFull segments) segments)
  | text => .ok (none, .bare (Text.Percent.encode Text.Percent.isControl text))

/-- Read what follows a scheme; `more` says whether a query or a fragment comes after it. -/
def readBody (scheme text : List Char) (more : Bool) : Except Fault (Option Authority × Path) :=
  if isFile scheme then (readFile scheme text).map fun r => (some r.1, r.2)
  else if isSpecial scheme then
    (readFull scheme (text.dropWhile (isSlash true)) more).map fun r => (some r.1, r.2)
  else readOther scheme text more

def parse (text : String) : Except Fault Url :=
  let (front, fragment) := splitAtFirst '#' (cleaned text.toList)
  let (front, query) := splitAtFirst '?' front
  match splitScheme? front with
  | none => .error .relative
  | some (scheme, body) => do
    let (authority, path) ← readBody scheme body (query.isSome || fragment.isSome)
    return {
      scheme, authority, path
      query := query.map (Text.Percent.encode (reservedInQuery (isSpecial scheme)))
      fragment := fragment.map (Text.Percent.encode reservedInFragment) }

end LongPoll.Url
