import ExchangeClient.Url.Basic

/-!
# Reading URLs

Blanks and controls around an address and line breaks inside it are dropped.  What
follows the scheme depends on its class.  The common schemes of the web take any
number of slashes before the host, either way round, and must have a host; files
have a host that is usually empty; any other scheme has an authority only after two
slashes, and without any slash its path is one piece.

Each place has its own set of characters to escape.

## Paths

A path is read onto the text that stands so far, segment by segment.  A segment of
one dot adds nothing, and one of two dots takes the last segment away; but a slash
right behind the letter of a drive stays, so no path leads out of a drive.  In the
address of a file a drive as the first segment is written with a colon, and nothing
of a host is left.
-/

namespace ExchangeClient
namespace Url

/-! ## What is escaped where -/

/-- Escaped in a fragment. -/
def escapedInFragment (c : Char) : Bool :=
  Host.isControl c || " \"<>`".toList.contains c

/-- Escaped in a path. -/
def escapedInPath (c : Char) : Bool :=
  escapedInFragment c || c == '#' || c == '?' || c == '\x7b' || c == '\x7d'

/-- Escaped in a name or a password. -/
def escapedInCredentials (c : Char) : Bool :=
  escapedInPath c || "/:;=@[\\]^|".toList.contains c

/-- Escaped in a query. -/
def escapedInQuery (kind : SchemeClass) (c : Char) : Bool :=
  Host.isControl c || " \"#<>".toList.contains c || (kind.isSpecial && c == '\'')

/-! ## Paths -/

/-- A sign that ends a segment. -/
def isSlash (kind : SchemeClass) (c : Char) : Bool :=
  c == '/' || (kind.isSpecial && c == '\\')

/-- A line break or tab, which counts for nothing wherever it stands. -/
def isBreak (c : Char) : Bool :=
  c == '\t' || c == '\n' || c == '\r'

/-- A segment that stands for its own folder. -/
def isDot (segment : List Char) : Bool :=
  [".", "%2e"].contains (String.ofList (segment.map Char.toLower))

/-- A segment that stands for the folder above. -/
def isDoubleDot (segment : List Char) : Bool :=
  ["..", ".%2e", "%2e.", "%2e%2e"].contains (String.ofList (segment.map Char.toLower))

/-- The letter of a drive. -/
def isDrive : List Char → Bool
  | [a, b] => a.isAlpha && (b == ':' || b == '|')
  | _ => false

/-- The letter of a drive as it is written. -/
def isWrittenDrive : List Char → Bool
  | [a, b] => a.isAlpha && b == ':'
  | _ => false

/-- Whether a text starts with the letter of a drive as a whole segment. -/
def startsWithDrive : List Char → Bool
  | a :: b :: rest => isDrive [a, b] && rest.head?.all fun c => "/\\?#".toList.contains c
  | _ => false

/-- The segment at the end of a path, reversed. -/
def lastSegment (path : List Char) : List Char :=
  path.reverse.takeWhile (· != '/')

/-- A path up to its last slash, which stays. -/
def toLastSlash (path : List Char) : List Char :=
  (path.reverse.dropWhile (· != '/')).reverse

/-- A path without the slash at its end, unless that is the first one or stands
behind the letter of a drive. -/
def dropSlash (path : List Char) : List Char :=
  if path.getLast? = some '/' && path.dropLast.contains '/'
      && !startsWithDrive ((lastSegment path.dropLast).reverse ++ ['/']) then
    path.dropLast
  else path

/-- A path without its last segment. -/
def goUp (kind : SchemeClass) (path : List Char) : List Char :=
  let path := dropSlash path
  if kind = .file && isWrittenDrive (lastSegment path).reverse then path else toLastSlash path

/-- A path with a slash at its end. -/
def withSlash (path : List Char) : List Char :=
  if path.getLast? = some '/' then path else path ++ ['/']

/-- The pieces of a path between its slashes. -/
def splitPath (kind : SchemeClass) : List Char → List (List Char)
  | [] => [[]]
  | c :: rest =>
    if isSlash kind c then [] :: splitPath kind rest
    else
      match splitPath kind rest with
      | [] => [[c]]
      | piece :: others => (c :: piece) :: others

/-- The parts of a piece between line breaks and tabs. -/
def unbroken (piece : List Char) : List (List Char) :=
  (Text.pieces '\n' (piece.map fun c => if isBreak c then '\n' else c)).filter (!·.isEmpty)

/-- A path with more of a segment at its end, and where the segment starts.  Behind
nothing but the letter of a drive comes a slash. -/
def addPart (kind : SchemeClass) (path : List Char × Nat) (part : List Char) :
    List Char × Nat :=
  let text := Text.percentEncode escapedInPath part
  if kind = .file && isWrittenDrive path.1.tail then (path.1 ++ '/' :: text, path.2 + 1)
  else (path.1 ++ text, path.2)

/-- A path while it is read, and whether its host stands. -/
structure ReadPath where
  text : List Char
  hasHost : Bool

/-- Reads one piece of a path; all but the last end with a slash. -/
def ReadPath.add (kind : SchemeClass) (path : ReadPath) (piece : List Char) (isLast : Bool) :
    ReadPath :=
  let (text, start) := (unbroken piece).foldl (addPart kind) (path.text, path.text.length)
  let before := text.take start
  let segment := text.drop start
  let slash := if isLast then [] else ['/']
  if isDoubleDot segment then
    let above := goUp kind before
    { path with text := if isLast then above else withSlash above }
  else if isDot segment then { path with text := withSlash before }
  else
    match kind, segment with
    | .file, [a, b] =>
      if start = 1 && isDrive [a, b] then ⟨before ++ a :: ':' :: slash, false⟩
      else { path with text := text ++ slash }
    | _, _ => { path with text := text ++ slash }

/-- Reads the pieces of a path. -/
def ReadPath.addAll (kind : SchemeClass) (path : ReadPath) : List (List Char) → ReadPath
  | [] => path
  | piece :: others => addAll kind (path.add kind piece others.isEmpty) others

/-- Reads a path onto the text before it.  The path of a file starts with one slash
only. -/
def readPath (kind : SchemeClass) (before : List Char) (hasHost : Bool) (cs : List Char) :
    ReadPath :=
  let path := (ReadPath.mk before hasHost).addAll kind (splitPath kind cs)
  if kind = .file then { path with text := '/' :: path.text.dropWhile (· == '/') } else path

/-- The segments of a path. -/
def segmentsOf : List Char → List (List Char)
  | [] => []
  | _ :: rest => Text.pieces '/' rest

/-! ## The tail of an address -/

/-- A text up to a query or a fragment, and the rest. -/
def beforeTail (cs : List Char) : List Char × List Char :=
  cs.span fun c => c != '?' && c != '#'

/-- The query and the fragment at the end of an address. -/
def readTail (kind : SchemeClass) (cs : List Char) : Option (List Char) × Option (List Char) :=
  let fragmentOf (cs : List Char) : Option (List Char) :=
    match cs with
    | '#' :: rest => some (Text.percentEncode escapedInFragment rest)
    | _ => none
  match cs with
  | '?' :: rest =>
    let (query, rest) := rest.span (· != '#')
    (some (Text.percentEncode (escapedInQuery kind) query), fragmentOf rest)
  | cs => (none, fragmentOf cs)

/-- What stands before a path that starts here, and the path.  An address with rules
of its own has a path always. -/
def pathStart (kind : SchemeClass) (cs : List Char) : List Char × List Char :=
  match cs with
  | [] => (if kind.isSpecial then ['/'] else [], [])
  | c :: rest =>
    if isSlash kind c then (['/'], rest)
    else (['/'], cs)

/-- A URL whose path starts here. -/
def withPath (scheme : List Char) (kind : SchemeClass) (authority : Option Authority)
    (cs : List Char) : Url :=
  let (path, tail) := beforeTail cs
  let (query, fragment) := readTail kind tail
  let (before, path) := pathStart kind path
  let text := if before.isEmpty then [] else (readPath kind before true path).text
  ⟨scheme, authority, .segments (segmentsOf text), query, fragment⟩

/-! ## Authorities -/

/-- A sign that ends an authority. -/
def endsAuthority (kind : SchemeClass) (c : Char) : Bool :=
  c == '?' || c == '#' || isSlash kind c

/-- The part of a text before its last sign of a kind, and the part behind it. -/
def cutLast? (sep : Char) (cs : List Char) : Option (List Char × List Char) :=
  if cs.contains sep then
    let back := cs.reverse
    some ((back.dropWhile (· != sep)).tail.reverse, (back.takeWhile (· != sep)).reverse)
  else none

/-- The text of a host, up to a colon outside brackets or the end of the authority, and
the rest. -/
def hostSpan (kind : SchemeClass) : (bracketed : Bool) → List Char → List Char × List Char
  | _, [] => ([], [])
  | bracketed, c :: rest =>
    if endsAuthority kind c || (c == ':' && !bracketed) then ([], c :: rest)
    else
      let bracketed := if c = '[' then true else if c = ']' then false else bracketed
      let (host, rest) := hostSpan kind bracketed rest
      (c :: host, rest)

/-- The port behind a colon, and the rest. -/
def readPort (scheme : List Char) (cs : List Char) :
    Except UrlError (Option Nat × List Char) :=
  let (digits, rest) := cs.span Char.isDigit
  let port := digits.foldl (fun n c => n * 10 + (c.toNat - 48)) 0
  let endsWell :=
    match rest with
    | [] => true
    | c :: _ => "/\\?#".toList.contains c
  if 65535 < port || !endsWell then .error .invalidPort
  else if digits.isEmpty || defaultPort? scheme = some port then .ok (none, rest)
  else .ok (some port, rest)

/-- Reads an address from behind the two slashes of its authority. -/
def readAuthority (scheme : List Char) (kind : SchemeClass) (cs : List Char) :
    Except UrlError Url := do
  let (front, tail) := cs.span fun c => !endsAuthority kind c
  let (credentials, rest) :=
    match cutLast? '@' front with
    | some (credentials, behind) => (some credentials, behind ++ tail)
    | none => (none, cs)
  let (username, password) :=
    let (name, password) := Text.cut ':' (credentials.getD [])
    (Text.percentEncode escapedInCredentials name,
      Text.percentEncode escapedInCredentials (password.getD []))
  let endsHere :=
    match rest with
    | c :: _ => endsAuthority kind c
    | [] => false
  if credentials = some [] && endsHere then throw .emptyHost
  let (hostText, rest) := hostSpan kind false rest
  if kind = .special && hostText.isEmpty then throw .emptyHost
  let host ← if kind.isSpecial then Host.ofChars hostText else Host.ofCharsVerbatim hostText
  let (port, rest) ←
    match rest with
    | ':' :: rest => if host.isEmpty then throw .emptyHost else readPort scheme rest
    | rest => pure (none, rest)
  if host.isEmpty && !(username.isEmpty && password.isEmpty) then throw .emptyHost
  return withPath scheme kind (some ⟨username, password, host, port⟩) rest

/-- A text without line breaks and tabs. -/
def unbreak (cs : List Char) : List Char := cs.filter (!isBreak ·)

/-- The address of a file on a host, or on none, whose path is read onto the text
before it. -/
def fileUrl (scheme : List Char) (host : Host) (before cs : List Char) : Url :=
  let (path, tail) := beforeTail cs
  let (query, fragment) := readTail .file (unbreak tail)
  let path := readPath .file before true path
  let host := if path.hasHost then host else .name []
  ⟨scheme, some ⟨[], [], host, none⟩, .segments (segmentsOf path.text), query, fragment⟩

/-- Reads the address of a file from behind its two slashes.  The letter of a drive
is no host, and the host of this machine is left out. -/
def readFileHost (scheme : List Char) (cs : List Char) : Except UrlError Url := do
  let (hostText, rest) := cs.span fun c => !endsAuthority .file c
  let hostText := unbreak hostText
  if isDrive hostText then return fileUrl scheme (.name []) ['/'] cs
  let host ← if hostText.isEmpty then pure (.name []) else Host.ofChars hostText
  if host = .name [] || host = .name "localhost".toList then
    return fileUrl scheme (.name []) ['/'] rest
  let rest :=
    match rest with
    | c :: more => if isSlash .file c then more else rest
    | [] => []
  return fileUrl scheme host ['/'] rest

/-- Reads the address of a file from behind the colon, line breaks and tabs and all. -/
def readFile (scheme : List Char) (cs : List Char) : Except UrlError Url :=
  match cs.dropWhile isBreak with
  | [] => .ok (fileUrl scheme (.name []) ['/'] [])
  | a :: rest =>
    if isSlash .file a then
      match rest.dropWhile isBreak with
      | b :: more =>
        if isSlash .file b then readFileHost scheme more
        else .ok (fileUrl scheme (.name []) ['/'] rest)
      | [] => .ok (fileUrl scheme (.name []) ['/'] [])
    else .ok (fileUrl scheme (.name []) ['/'] cs)

/-- Reads an address of any other scheme from behind the colon. -/
def readOther (scheme : List Char) (cs : List Char) : Except UrlError Url :=
  match cs with
  | '/' :: '/' :: rest => readAuthority scheme .other rest
  | '/' :: _ => .ok (withPath scheme .other none cs)
  | cs =>
    let (path, tail) := beforeTail cs
    let (query, fragment) := readTail .other tail
    .ok ⟨scheme, none, .whole (Text.percentEncode Host.isControl path), query, fragment⟩

/-! ## Addresses -/

/-- A character that a scheme may contain. -/
def isSchemeChar (c : Char) : Bool :=
  c.isAlphanum || c == '+' || c == '-' || c == '.'

/-- The scheme of an address, in lower case, and what follows its colon. -/
def scheme? (cs : List Char) : Option (List Char × List Char) :=
  match cs.span isSchemeChar with
  | (c :: more, ':' :: rest) =>
    if c.isAlpha then some ((c :: more).map Char.toLower, rest) else none
  | _ => none

/-- An address without the blanks and controls around it. -/
def trim (cs : List Char) : List Char :=
  let isOuter (c : Char) : Bool := c.toNat ≤ 0x20
  ((cs.dropWhile isOuter).reverse.dropWhile isOuter).reverse

/-- The URL that an address writes. -/
def ofChars (cs : List Char) : Except UrlError Url :=
  let cs := trim cs
  match scheme? (unbreak cs) with
  | none => .error .relativeWithoutBase
  | some (scheme, rest) =>
    match SchemeClass.ofScheme scheme with
    | .special => readAuthority scheme .special (rest.dropWhile (isSlash .special))
    | .file => readFile scheme (cs.dropWhile (· != ':')).tail
    | .other => readOther scheme rest

/-- The URL that an address writes. -/
def ofText (text : String) : Except UrlError Url := ofChars text.toList

/-- What the path of a URL keeps when another path is joined to it: the letter of a
drive. -/
def driveOf (u : Url) : List Char :=
  match SchemeClass.ofScheme u.scheme, u.path with
  | .file, .segments (segment :: _) => if isWrittenDrive segment then '/' :: segment else []
  | _, _ => []

/-- The URL of a path on the server of another URL. -/
def join (base : Url) (path : List Char) : Except UrlError Url :=
  match base.path with
  | .whole _ => .error .relativeToPathless
  | .segments _ =>
    let kind := SchemeClass.ofScheme base.scheme
    .ok (withPath base.scheme kind base.authority (driveOf base ++ path))

/-- Whether there is a server to ask for paths: the URL names a host, and other paths can be
joined to it. -/
def isServer (base : Url) : Bool :=
  base.hasHost &&
    match base.path with
    | .segments _ => true
    | .whole _ => false

end Url
end ExchangeClient
