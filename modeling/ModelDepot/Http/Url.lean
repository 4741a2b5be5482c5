import ModelDepot.Http.Host
import ModelDepot.Text.Cut

/-!
Addresses on the web: reading them, writing them, and putting segments below one.
-/
namespace ModelDepot.Http

/-- The path of an address: segments, or a text that is no path and below which nothing is. -/
inductive Path where
  | segments (segments : List String)
  | text (shown : String)
  deriving DecidableEq, Repr

structure Url where
  scheme : String
  /-- User, host and the number behind its colon. -/
  site : Option String
  path : Path
  query : Option String := none
  fragment : Option String := none
  deriving DecidableEq, Repr

def isSpecial (scheme : String) : Bool :=
  ["http", "https", "ws", "wss", "ftp", "file"].contains scheme

namespace Path

def render : Path → String
  | segments list => String.join (list.map ("/" ++ ·))
  | text shown => shown

end Path

namespace Url

def render (url : Url) : String :=
  url.scheme ++ ":" ++ (url.site.map ("//" ++ ·)).getD "" ++ url.path.render ++
    (url.query.map ("?" ++ ·)).getD "" ++ (url.fragment.map ("#" ++ ·)).getD ""

/-- Nothing can be put below the address. -/
def cannotBeBase (url : Url) : Bool :=
  match url.path with
  | .segments _ => false
  | .text _ => true

/-! ### Reading -/

def isSlash (special : Bool) (c : Char) : Bool := c == '/' || (special && c == '\\')

def isDot (segment : String) : Bool := segment == "." || Text.asciiLower segment == "%2e"

def isDoubleDot (segment : String) : Bool :=
  ["..", ".%2e", "%2e.", "%2e%2e"].contains (Text.asciiLower segment)

/-- The segments of a path with the steps up and in place taken, in reverse. -/
def resolve (done : List String) : List String → List String
  | [] => done
  | [last] =>
    if isDoubleDot last then "" :: done.drop 1
    else if isDot last then "" :: done
    else last :: done
  | segment :: more =>
    if isDoubleDot segment then resolve (done.drop 1) more
    else if isDot segment then resolve done more
    else resolve (segment :: done) more

/-- The segments of an absolute path. -/
def readSegments (special : Bool) (text : List Char) : List String :=
  let text := match text with
    | c :: rest => if isSlash special c then rest else c :: rest
    | [] => []
  let parts := (Text.splitAtAll (isSlash special) text).map fun part =>
    percentEncode keptPath (String.ofList part)
  (resolve [] parts).reverse

/-- The part before a character, and what is behind it if it occurs. -/
def cutAt (c : Char) (text : List Char) : List Char × Option (List Char) :=
  let front := text.takeWhile (· != c)
  (front, if front.length < text.length then some (text.drop (front.length + 1)) else none)

/-- The characters that end a site. -/
def endsSite (special : Bool) (c : Char) : Bool := isSlash special c || c == '?' || c == '#'

/-- The host and what follows it; a colon inside brackets belongs to the host. -/
def takeHost (special : Bool) : Bool → List Char → List Char × List Char
  | _, [] => ([], [])
  | inside, c :: rest =>
    if (c == ':' && !inside) || endsSite special c then ([], c :: rest)
    else
      let inside := if c == '[' then true else if c == ']' then false else inside
      let (host, after) := takeHost special inside rest
      (c :: host, after)

/-- The number behind a colon, and what follows it. -/
def takePort (text : List Char) : Except UrlError (Option Nat × List Char) :=
  let digits := text.takeWhile Char.isDigit
  let after := text.dropWhile Char.isDigit
  let number := digits.foldl (fun n c => n * 10 + (c.toNat - '0'.toNat)) 0
  if !after.head?.all (endsSite true) || 65535 < number then .error .invalidPort
  else .ok (if digits.isEmpty then none else some number, after)

def defaultPort (scheme : String) : Option Nat :=
  [("http", 80), ("https", 443), ("ws", 80), ("wss", 443), ("ftp", 21)].lookup scheme

/-- The user before the last sign that ends one, if there is such a sign, and what follows. -/
def takeUser (special : Bool) (text : List Char) : Option (List Char) × List Char :=
  let site := text.takeWhile fun c => !endsSite special c
  let host := (site.reverse.takeWhile (· != '@')).reverse
  if host.length = site.length then (none, text)
  else
    let user := site.take (site.length - host.length - 1)
    (some user, text.drop (user.length + 1))

/-- The user as it is written, with its sign; one of nothing but a colon is not written. -/
def shownUser (user : List Char) : String :=
  if user.isEmpty || user = [':'] then ""
  else
    percentEncode (fun c => keptUserInfo c || c == ':' || c == '@' || c == '%') (String.ofList user)
      ++ "@"

/-- The site of an address, and what follows it. An address that needs no host has none where
    nothing is, but then neither a user nor a number. -/
def readSite (scheme : String) (text : List Char) : Except UrlError (String × List Char) := do
  let special := isSpecial scheme
  let (user, text) := takeUser special text
  if user = some [] && text.head?.any (endsSite special) then throw .emptyHost
  let (host, after) := takeHost special false text
  if special && host.isEmpty then throw .emptyHost
  let name ← if special then readHost host else readForeignHost host
  if name.isEmpty && after.head? = some ':' then throw .emptyHost
  let (number, after) ← match after with
    | ':' :: digits => takePort digits
    | _ => pure (none, after)
  let user := (user.map shownUser).getD ""
  if name.isEmpty && user != "" then throw .emptyHost
  let number := if number = defaultPort scheme then none else number
  return (user ++ String.ofList name ++ (number.map fun n => ":" ++ toString n).getD "", after)

/-- A letter and a sign behind it, which begin a path and are no host. -/
def isDrive : List Char → Bool
  | [letter, sign] => letter.isAlpha && (sign == ':' || sign == '|')
  | _ => false

/-- The site of a file behind two slashes, and what follows it; the own host is not written. -/
def readFileSite (text : List Char) : Except UrlError (String × List Char) := do
  let host := text.takeWhile fun c => !endsSite true c
  if host.isEmpty || isDrive host then return ("", text)
  let name ← readHost host
  return (if name = "localhost".toList then "" else String.ofList name, text.drop host.length)

/-- The path, query and fragment behind a site. -/
def readRest (scheme : String) (site : Option String) (isText : Bool) (text : List Char) : Url :=
  let special := isSpecial scheme
  let (text, fragment) := cutAt '#' text
  let (text, query) := cutAt '?' text
  let path : Path :=
    if isText then .text (percentEncode keptInText (String.ofList text))
    else if text.isEmpty && !special then .segments []
    else .segments (readSegments special text)
  { scheme := scheme
    site := site
    path := path
    query := query.map fun q => percentEncode (keptQuery special) (String.ofList q)
    fragment := fragment.map fun f => percentEncode keptFragment (String.ofList f) }

/-- The scheme before the first colon, in lower case, and what follows it. -/
def readScheme? (text : List Char) : Option (String × List Char) :=
  match text with
  | [] => none
  | c :: _ =>
    if !c.isAlpha then none
    else
      match cutAt ':' text with
      | (_, none) => none
      | (name, some rest) =>
        if name.all fun c => c.isAlphanum || c == '+' || c == '-' || c == '.' then
          some (String.ofList (name.map Char.toLower), rest)
        else none

def isEdge (c : Char) : Bool := c.toNat ≤ 0x20

/-- An absolute address; controls and blanks around it and line ends within it do not count. -/
def parse (input : String) : Except UrlError Url :=
  let trimmed := ((input.toList.dropWhile isEdge).reverse.dropWhile isEdge).reverse
  let text := trimmed.filter fun c => c != '\t' && c != '\n' && c != '\r'
  match readScheme? text with
  | none => .error .relative
  | some (scheme, rest) =>
    if scheme = "file" then do
      let (site, after) ← match rest with
        | a :: b :: more =>
          if isSlash true a && isSlash true b then readFileSite more else pure ("", rest)
        | _ => pure ("", rest)
      return readRest scheme (some site) false after
    else if isSpecial scheme then do
      let (site, after) ← readSite scheme (rest.dropWhile (isSlash true))
      return readRest scheme (some site) false after
    else if rest.take 2 = ['/', '/'] then do
      let (site, after) ← readSite scheme (rest.drop 2)
      return readRest scheme (some site) false after
    else .ok (readRest scheme none (rest.head? ≠ some '/') rest)

/-! ### Segments below an address -/

/-- One segment as it is put into a path: line ends and tabs vanish. -/
def encodeSegment (special : Bool) (segment : String) : String :=
  percentEncode (keptSegment special)
    (String.ofList (segment.toList.filter fun c => c != '\t' && c != '\n' && c != '\r'))

/-- The path with segments added; those that mean a place or the one above add nothing. A segment is
looked at as it was given: one that becomes "." or ".." only once its tabs and line ends are dropped
stays as a segment of the path here, where a reader of the address by the rules of addresses would
resolve it. -/
def extended (special : Bool) (path segments : List String) : List String :=
  let base := if path.getLast? = some "" then path.dropLast else path
  base ++ (segments.filter fun s => s != "." && s != "..").map (encodeSegment special)

/-- The address below this one, unless nothing can be. -/
def below? (url : Url) (segments : List String) : Option Url :=
  match url.path with
  | .text _ => none
  | .segments path =>
    some { url with path := .segments (extended (isSpecial url.scheme) path segments) }

/-- The address with more pairs in its query. -/
def withPairs (url : Url) (pairs : List (String × String)) : Url :=
  if pairs.isEmpty then url
  else
    let added := formPairs pairs
    let query := match url.query with
      | none | some "" => added
      | some query => query ++ "&" ++ added
    { url with query := some query }

/-- The path and the query, as they are sent. -/
def target (url : Url) : String :=
  let path := url.path.render
  (if path = "" then "/" else path) ++ (url.query.map ("?" ++ ·)).getD ""

end Url
end ModelDepot.Http
