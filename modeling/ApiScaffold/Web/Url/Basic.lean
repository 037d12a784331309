/-!
# URLs

A URL has a scheme, usually a place and a path, and perhaps a query and a fragment.

* `Url.pathText`, `Url.target`: the path of a URL, alone and with its query.
* `Url.text`: the whole.
-/

namespace ApiScaffold.Web

/-- What a URL starts with. -/
inductive Scheme
  /-- A scheme whose host is looked up in the network, and the port that it implies. -/
  | network (name : String) (port : Nat)
  | file
  | other (name : String)
  deriving DecidableEq, Repr

namespace Scheme

/-- The scheme of a name in small letters. -/
def ofName : String → Scheme
  | "http" => network "http" 80
  | "https" => network "https" 443
  | "ws" => network "ws" 80
  | "wss" => network "wss" 443
  | "ftp" => network "ftp" 21
  | "file" => file
  | name => other name

def name : Scheme → String
  | network name _ => name
  | file => "file"
  | other name => name

/-- Whether a backslash counts as a slash. -/
def isSpecial : Scheme → Bool
  | other _ => false
  | _ => true

def defaultPort? : Scheme → Option Nat
  | network _ port => some port
  | _ => none

end Scheme

/-- The place that a URL names. -/
structure Authority where
  /-- The name and the password of a user with the sign behind them, or nothing. -/
  user : String := ""
  host : String
  port : Option Nat := none
  deriving DecidableEq, Repr

/-- The path of a URL. -/
inductive UrlPath
  | segments (parts : List String)
  | whole (text : String)
  deriving DecidableEq, Repr

/-- A URL, with everything encoded as it is written. -/
structure Url where
  scheme : Scheme
  authority : Option Authority
  path : UrlPath
  query : Option String := none
  fragment : Option String := none
  deriving DecidableEq, Repr

def UrlPath.text : UrlPath → String
  | .segments parts => String.join (parts.map ("/" ++ ·))
  | .whole text => text

def Authority.text (a : Authority) : String :=
  a.user ++ a.host ++ (a.port.map fun port => s!":{port}").getD ""

namespace Url

/-- The path. -/
def pathText (u : Url) : String := u.path.text

/-- The path with the query, which a request for the URL asks for. -/
def target (u : Url) : String := u.pathText ++ (u.query.map ("?" ++ ·)).getD ""

/-- What stands between the scheme and the path: the place behind two slashes, or, where a path
without a place would be taken for one, a dot segment. -/
def placeText (u : Url) : String :=
  match u.authority, u.path with
  | some a, _ => "//" ++ a.text
  | none, .segments ("" :: _ :: _) => "/."
  | none, _ => ""

/-- The whole. -/
def text (u : Url) : String :=
  u.scheme.name ++ ":" ++ u.placeText ++ u.pathText ++ (u.query.map ("?" ++ ·)).getD ""
    ++ (u.fragment.map ("#" ++ ·)).getD ""

end Url

end ApiScaffold.Web
