import ApiScaffold.Web.Url.Basic
import ApiScaffold.Web.Url.Host

/-!
# Reading URLs

Blanks and control characters around a URL are dropped, and so are tabs and line ends inside.
A scheme that is looked up in the network has a host, takes a backslash for a slash, and always
has a path; the path of any other scheme may be empty, or one opaque text.

* `Url.read`: the URL of a text.
* `UrlFault`: why there is none.
-/

namespace ApiScaffold.Web

open Text

/-- Why a text is no URL. -/
inductive UrlFault
  | relative
  | host (fault : HostFault)
  | port
  deriving DecidableEq, Repr

def UrlFault.message : UrlFault → String
  | relative => "relative URL without a base"
  | host fault => fault.message
  | port => "invalid port number"

namespace Url

/-- Control characters and the blank, which are dropped at both ends. -/
def isOuterBlank (c : Char) : Bool := c ≤ ' '

/-- The characters of a URL that count. -/
def relevant (s : String) : List Char :=
  (trimWhile isOuterBlank s.toList).filter fun c => !(c == '\t' || c == '\n' || c == '\r')

/-- Whether a character can stand in a scheme. -/
def isSchemeChar (c : Char) : Bool := isAsciiAlphanumeric c || c == '+' || c == '-' || c == '.'

/-- The scheme in front of a colon, in small letters, and what follows the colon. -/
def splitScheme (cs : List Char) : Option (Scheme × List Char) :=
  match cs.span isSchemeChar with
  | (c :: name, ':' :: rest) =>
    if isAsciiLetter c then some (.ofName (String.ofList ((c :: name).map asciiLower)), rest)
    else none
  | _ => none

/-- What stands for itself in a path. -/
def isPathChar (c : Char) : Bool := !isControl c && !" \"<>`#?\x7b\x7d".toList.contains c

/-- What stands for itself in a query; not the apostrophe, where a scheme is looked up. -/
def isQueryChar (special : Bool) (c : Char) : Bool :=
  !isControl c && !" \"#<>".toList.contains c && !(special && c == '\'')

/-- What stands for itself in a fragment. -/
def isFragmentChar (c : Char) : Bool := !isControl c && !" \"<>`".toList.contains c

/-- What stands for itself in the name and the password of a user. -/
def isUserChar (c : Char) : Bool := isPathChar c && !"/:;=@[\\]^|".toList.contains c

/-- Characters with those that do not stand for themselves encoded. -/
def encodeChars (keep : Char → Bool) (cs : List Char) : List Char :=
  encodeWith keep (utf8 (String.ofList cs))

/-- Whether a character ends the part of a URL that names the place. -/
def endsAuthority (scheme : Scheme) (c : Char) : Bool :=
  c == '/' || c == '?' || c == '#' || (scheme.isSpecial && c == '\\')

/-! ## The place -/

/-- The name and the password of a user, with the sign behind them; nothing if both are empty. -/
def userText (cs : List Char) : List Char :=
  let name := encodeChars isUserChar (cs.takeWhile (· != ':'))
  let password := encodeChars isUserChar ((cs.dropWhile (· != ':')).drop 1)
  if name.isEmpty && password.isEmpty then []
  else name ++ (if password.isEmpty then [] else ':' :: password) ++ ['@']

/-- The host and the text behind it, which is empty or starts with the colon of a port. -/
def splitPort : Bool → List Char → List Char × List Char
  | _, [] => ([], [])
  | inBrackets, c :: cs =>
    if c == ':' && !inBrackets then ([], c :: cs)
    else
      let (host, rest) := splitPort (c == '[' || (inBrackets && c != ']')) cs
      (c :: host, rest)

/-- The port behind a colon; the port that the scheme implies is left out. -/
def readPort (scheme : Scheme) (cs : List Char) : Except UrlFault (Option Nat) :=
  if !cs.all isAsciiDigit then .error .port
  else
    let n := Host.numberOf 10 cs
    if 65535 < n then .error .port
    else .ok (if cs.isEmpty || scheme.defaultPort? = some n then none else some n)

/-- The host of a text. -/
def hostOf (scheme : Scheme) (cs : List Char) : Except UrlFault String :=
  if scheme.isSpecial then
    if cs.isEmpty then .error (.host .empty) else (readHost cs).mapError .host
  else (readOpaqueHost cs).mapError .host

/-- The place that a text names. -/
def readAuthority (scheme : Scheme) (cs : List Char) : Except UrlFault Authority := do
  let pieces := splitWhere (· == '@') cs
  let user := List.intercalate ['@'] pieces.dropLast
  let place := pieces.getLast?.getD []
  if 1 < pieces.length && user.isEmpty && place.isEmpty then throw (.host .empty)
  let (host, rest) := splitPort false place
  let host ← hostOf scheme host
  if host.isEmpty && !rest.isEmpty then throw (.host .empty)
  let port ← readPort scheme (rest.drop 1)
  let user := String.ofList (userText user)
  if host.isEmpty && !user.isEmpty then throw (.host .empty)
  return { user, host, port }

/-! ## The path -/

/-- Whether a segment stands for the one it is in. -/
def isSingleDot (segment : String) : Bool := [".", "%2e"].contains (lowerAscii segment)

/-- Whether a segment stands for the one above. -/
def isDoubleDot (segment : String) : Bool :=
  ["..", ".%2e", "%2e.", "%2e%2e"].contains (lowerAscii segment)

/-- Whether a segment names a drive. -/
def isDrive (segment : String) : Bool :=
  match segment.toList with
  | [c, m] => isAsciiLetter c && (m == ':' || m == '|')
  | _ => false

/-- The segments without the last one, which stays if it names a drive of a file. -/
def dropSegment (scheme : Scheme) (segments : List String) : List String :=
  match scheme, segments.getLast? with
  | .file, some s => if isDrive s then segments else segments.dropLast
  | _, _ => segments.dropLast

/-- Adds a segment, which is the last one or not. -/
def addSegment (scheme : Scheme) (segments : List String) (segment : String) (last : Bool) :
    List String :=
  if isDoubleDot segment then
    dropSegment scheme segments ++ (if last then [""] else [])
  else if isSingleDot segment then segments ++ (if last then [""] else [])
  else if scheme = .file && segments.isEmpty && isDrive segment then
    [String.ofList (segment.toList.take 1 ++ [':'])]
  else segments ++ [segment]

/-- Adds the segments of a path. -/
def addSegments (scheme : Scheme) : List String → List String → List String
  | segments, [] => segments
  | segments, [s] => addSegment scheme segments s true
  | segments, s :: rest => addSegments scheme (addSegment scheme segments s false) rest

/-- Whether a character stands between segments. -/
def isSeparator (scheme : Scheme) (c : Char) : Bool :=
  c == '/' || (scheme.isSpecial && c == '\\')

/-- The segments of a path, whose first separator is already gone. -/
def segmentsOf (scheme : Scheme) (cs : List Char) : List String :=
  addSegments scheme [] ((splitWhere (isSeparator scheme) cs).map fun segment =>
    String.ofList (encodeChars isPathChar segment))

/-- A path without the separator in front. -/
def dropSeparator (scheme : Scheme) : List Char → List Char
  | c :: cs => if isSeparator scheme c then cs else c :: cs
  | [] => []

/-- The path of a file: segments in front that are empty are left out. -/
def filePath (cs : List Char) : List String :=
  match (segmentsOf .file (dropSeparator .file cs)).dropWhile (· == "") with
  | [] => [""]
  | segments => segments

/-- Whether the path of a file starts with a drive. -/
def startsWithDrive (cs : List Char) : Bool :=
  (segmentsOf .file (dropSeparator .file cs)).head?.any isDrive

/-- The path behind the place. -/
def pathBehind (scheme : Scheme) (cs : List Char) : UrlPath :=
  if scheme = .file then .segments (filePath cs)
  else if cs.isEmpty && !scheme.isSpecial then .segments []
  else .segments (segmentsOf scheme (dropSeparator scheme cs))

/-! ## The whole -/

/-- The query and the fragment at the end. -/
structure Ending where
  query : Option String
  fragment : Option String

/-- What comes before the query and the fragment, and these. -/
def splitEnding (scheme : Scheme) (cs : List Char) : List Char × Ending :=
  let front := cs.takeWhile fun c => c != '?' && c != '#'
  let rest := cs.drop front.length
  let query := (rest.takeWhile (· != '#')).drop 1
  let fragment := rest.dropWhile (· != '#')
  (front,
    { query :=
        if rest.head? == some '?' then
          some (String.ofList (encodeChars (isQueryChar scheme.isSpecial) query))
        else none
      fragment :=
        if fragment.isEmpty then none
        else some (String.ofList (encodeChars isFragmentChar (fragment.drop 1))) })

/-- The place and the path of what follows two slashes. -/
def readPlaced (scheme : Scheme) (cs : List Char) : Except UrlFault (Authority × UrlPath) := do
  let (authority, path) := cs.span (!endsAuthority scheme ·)
  return (← readAuthority scheme authority, pathBehind scheme path)

/-- The place of a file, which is nowhere or a host; a drive is the start of the path, and a path
that starts with one has no host. -/
def readFile (cs : List Char) : Except UrlFault (Authority × UrlPath) :=
  match cs with
  | c :: d :: rest =>
    if isSeparator .file c && isSeparator .file d then
      let (host, path) := rest.span (!endsAuthority .file ·)
      if host.isEmpty || isDrive (String.ofList host) then
        .ok ({ host := "" }, .segments (filePath rest))
      else do
        let host ← (readHost host).mapError .host
        let isHere := host = "localhost" || startsWithDrive path
        return ({ host := if isHere then "" else host }, .segments (filePath path))
    else .ok ({ host := "" }, .segments (filePath cs))
  | _ => .ok ({ host := "" }, .segments (filePath cs))

/-- The URL of a text. -/
def read (s : String) : Except UrlFault Url :=
  match splitScheme (relevant s) with
  | none => .error .relative
  | some (scheme, rest) => do
    let (front, ending) := splitEnding scheme rest
    let finish (authority : Option Authority) (path : UrlPath) : Url :=
      { scheme, authority, path, query := ending.query, fragment := ending.fragment }
    if scheme = .file then
      let (authority, path) ← readFile front
      return finish (some authority) path
    else if scheme.isSpecial then
      let (authority, path) ← readPlaced scheme (front.dropWhile (isSeparator scheme))
      return finish (some authority) path
    else
      match front with
      | '/' :: '/' :: rest =>
        let (authority, path) ← readPlaced scheme rest
        return finish (some authority) path
      | '/' :: rest => return finish none (.segments (segmentsOf scheme rest))
      | _ => return finish none (.whole (String.ofList (encodeChars (!isControl ·) front)))

end Url

end ApiScaffold.Web
