import Shorthand.Uri.Segments

/-!
# `Shorthand.Uri.Parser`: reading identifiers

An identifier starts with a scheme. The schemes of the network (`network`) always have a
host and a path; the scheme `file` has a path and perhaps a host; any other scheme may
have an authority behind two slashes, a path behind one, or else a text that is taken as
it is. Query and fragment follow. `parse?` refuses a text without scheme, a wrong host
and a wrong service number, and nothing else.
-/

set_option autoImplicit false

namespace Shorthand

namespace Uri

/-! ### Scheme -/

/-- What a scheme asks of the rest. -/
inductive Kind where
  /-- Files, perhaps of another host. -/
  | file
  /-- Services of a host, reached over the network. -/
  | network
  | other
  deriving DecidableEq, Repr

namespace Kind

/-- The kind of a scheme. -/
def of (scheme : Text) : Kind :=
  if scheme = "file".toList then .file
  else if Text.oneOf ["http", "https", "ws", "wss", "ftp"] scheme then .network
  else .other

/-- Whether a backslash counts as a slash. -/
def backslash (k : Kind) : Bool :=
  k != .other

/-- Whether a character ends the authority. -/
def endsAuthority (k : Kind) (c : Char) : Bool :=
  c == '/' || endsPath c || (k.backslash && c == '\\')

end Kind

/-- The service number that a scheme uses unless another is given. -/
def usualService (scheme : Text) : Option Nat :=
  if Text.oneOf ["http", "ws"] scheme then some 80
  else if Text.oneOf ["https", "wss"] scheme then some 443
  else if Text.oneOf ["ftp"] scheme then some 21
  else none

/-- A scheme in lower case and what follows its colon. -/
def readScheme? (s : Text) : Option (Text × Text) :=
  match s with
  | [] => none
  | first :: _ =>
    let inScheme (c : Char) : Bool := c.isAlphanum || c == '+' || c == '-' || c == '.'
    if first.isAlpha then
      match s.dropWhile inScheme with
      | ':' :: rest => some (Text.toLower (s.takeWhile inScheme), rest)
      | _ => none
    else none

/-! ### Authority -/

/-- What stands before and behind the last such character. -/
def splitLast (sep : Char) (t : Text) : Option (Text × Text) :=
  (Text.splitOnce sep t.reverse).map fun (behind, before) => (before.reverse, behind.reverse)

/-- A user and a password behind the first colon, escaped. The colon goes with an empty
password. -/
def userText (t : Text) : Text :=
  match Text.splitOnce ':' t with
  | none => escape userSpecial t
  | some (name, []) => escape userSpecial name
  | some (name, password) => escape userSpecial name ++ ':' :: escape userSpecial password

/-- Reads the user up to the last `@` of the authority: the user, and what follows. An
`@` alone in front of a path is refused. -/
def readUser? (k : Kind) (s : Text) : Option (Text × Text) :=
  match splitLast '@' (s.takeWhile (!k.endsAuthority ·)) with
  | none => some ([], s)
  | some (user, rest) =>
    let after := rest ++ s.dropWhile (!k.endsAuthority ·)
    match user, after with
    | [], c :: _ => if k.endsAuthority c then none else some ([], after)
    | user, after => some (userText user, after)

/-- The text of a host and what follows it. A colon between brackets belongs to the
host. -/
def splitHost (k : Kind) (inside : Bool) : Text → Text × Text
  | [] => ([], [])
  | c :: rest =>
    if k.endsAuthority c || (c == ':' && !inside) then ([], c :: rest)
    else
      let inside := if c = '[' then true else if c = ']' then false else inside
      (c :: (splitHost k inside rest).1, (splitHost k inside rest).2)

/-- Reads the number of a service from behind its colon, `none` inside when it is the
usual one or absent. -/
def readService? (scheme s : Text) : Option (Option Nat × Text) :=
  let digits := s.takeWhile Char.isDigit
  let after := s.dropWhile Char.isDigit
  let number := Text.digitsValue digits
  let ends : Bool := match after with
    | [] => true
    | c :: _ => c == '/' || c == '\\' || endsPath c
  if !ends || 0xFFFF < number then none
  else if digits = [] ∨ usualService scheme = some number then some (none, after)
  else some (some number, after)

/-- Reads an authority from behind its two slashes. A user or a service number needs a
host, and so does a scheme of the network. -/
def readAuthority? (scheme : Text) (k : Kind) (s : Text) : Option (Authority × Text) := do
  let (user, s) ← readUser? k s
  let (text, s) := splitHost k false s
  let host ← if k = .other then Host.ofPlain? text else Host.ofDomain? text
  match s with
  | ':' :: s =>
    let (service, s) ← readService? scheme s
    if host = .absent then none else some ({ user, host, service }, s)
  | s => if host = .absent ∧ user ≠ [] then none else some ({ user, host }, s)

/-! ### Path -/

/-- Reads the path behind an authority. Only a scheme of the network always has one. -/
def readPath (k : Kind) (s : Text) : Path × Text :=
  let read (s : Text) : Path × Text :=
    let (segments, rest) := readSegments false k.backslash s
    (.rooted segments, rest)
  match s with
  | [] => if k = .other then (.rooted [], []) else read []
  | c :: rest =>
    if c = '/' ∨ (k.backslash ∧ c = '\\') then read rest
    else if k = .other ∧ endsPath c then (.rooted [], s)
    else read s

/-- Reads a `file` identifier behind its colon: host, path and what follows.

Behind two slashes stands a host. A drive in its place belongs to the path, and the
local host is no host; then the path is taken with all its slashes, so that a drive
behind them is not at its start. A drive at the start of the path leaves no host. -/
def readFile? (s : Text) : Option (Host × Path × Text) :=
  let isSlash (c : Char) : Bool := c == '/' || c == '\\'
  let finish (host : Host) (s : Text) : Host × Path × Text :=
    let (segments, rest) := readSegments true true s
    let host := if (segments.head?.map isDrive).getD false then .absent else host
    (host, .rooted (dropEmptySegments segments), rest)
  match s with
  | [] => some (finish .absent [])
  | a :: behindOne =>
    if !isSlash a then some (finish .absent s)
    else
      match behindOne with
      | [] => some (finish .absent [])
      | b :: behindTwo =>
        if !isSlash b then some (finish .absent behindOne)
        else do
          let text := behindTwo.takeWhile (!Kind.endsAuthority .file ·)
          let after := behindTwo.dropWhile (!Kind.endsAuthority .file ·)
          if isDrive text then some (finish .absent behindTwo)
          else if text = [] then some (finish .absent after)
          else
            let host ← Host.ofDomain? text
            if host = .name "localhost".toList then some (finish .absent after)
            else
              match after with
              | c :: rest => some (finish host (if isSlash c then rest else after))
              | [] => some (finish host [])

/-! ### The whole -/

/-- Control characters and blanks around an identifier, and line breaks in it, do not
count. -/
def clean (t : Text) : Text :=
  let outer (c : Char) : Bool := c.toNat ≤ 0x20
  (Text.trimEndWhile outer (t.dropWhile outer)).filter fun c =>
    c != '\t' && c != '\n' && c != '\r'

/-- Reads what follows the path: a query behind `?` and a fragment behind `#`, which is
where the query ends. -/
def readTail (k : Kind) (s : Text) : Option Text × Option Text :=
  let special := if k = .other then querySpecial else '\'' :: querySpecial
  let fragment (s : Text) : Option Text :=
    match s with
    | '#' :: s => some (escape fragmentSpecial s)
    | _ => none
  match s with
  | '?' :: s => (some (escape special (s.takeWhile (· != '#'))), fragment (s.dropWhile (· != '#')))
  | s => (none, fragment s)

/-- Reads an identifier behind its scheme up to the query: authority, path and what
follows. -/
def readBody? (scheme : Text) (k : Kind) (s : Text) : Option (Option Authority × Path × Text) :=
  let withAuthority (s : Text) : Option (Option Authority × Path × Text) := do
    let (authority, s) ← readAuthority? scheme k s
    let (path, s) := readPath k s
    return (some authority, path, s)
  match k with
  | .file => do
    let (host, path, s) ← readFile? s
    return (some { host }, path, s)
  | .network => withAuthority (s.dropWhile fun c => c == '/' || c == '\\')
  | .other =>
    match s with
    | '/' :: '/' :: s => withAuthority s
    | '/' :: s =>
      let (segments, s) := readSegments false false s
      some (none, .rooted segments, s)
    | s => some (none, .flat (escape [] (s.takeWhile (!endsPath ·))), s.dropWhile (!endsPath ·))

/-- Reads an identifier, `none` when it is not one. -/
def parse? (t : Text) : Option Uri := do
  let (scheme, s) ← readScheme? (clean t)
  let k := Kind.of scheme
  let (authority, path, s) ← readBody? scheme k s
  let (query, fragment) := readTail k s
  return { scheme, authority, path, query, fragment }

end Uri

end Shorthand
