/-
# Addresses

An address is read into its parts and written from them. Reading knows three kinds of scheme: those
of the web, which always have a host, files, and all others. A text without a scheme is not an
address by itself.
-/

import DynamicContent.Url.Host

namespace DynamicContent

/-- The path of an address: segments after slashes, or a text that is not divided. -/
inductive UrlPath where
  | segments (parts : List String)
  | opaquePart (text : String)

/-- An address. -/
structure Url where
  scheme : String
  username : String
  password : Option String
  host : Option Url.Host
  port : Option Nat
  path : UrlPath
  query : Option String
  fragment : Option String

namespace Url

/-- The usual port of a scheme of the web. -/
def defaultPort? (scheme : String) : Option Nat :=
  if scheme == "http" || scheme == "ws" then some 80
  else if scheme == "https" || scheme == "wss" then some 443
  else if scheme == "ftp" then some 21
  else none

/-- The schemes of the web. -/
def isWebScheme (scheme : String) : Bool := (defaultPort? scheme).isSome

/-- The schemes in which a backslash divides like a slash. -/
def isSpecialScheme (scheme : String) : Bool := isWebScheme scheme || scheme == "file"

/-! ## Writing -/

/-- The text of a path. -/
def pathText : UrlPath → String
  | .segments parts => String.join (parts.map ("/" ++ ·))
  | .opaquePart text => text

/-- The text of the user name and password. -/
def userInfoText (url : Url) : String :=
  match url.password with
  | some password => url.username ++ ":" ++ password ++ "@"
  | none => if url.username.isEmpty then "" else url.username ++ "@"

/-- The text of an address. -/
def text (url : Url) : String :=
  let authority := match url.host with
    | some host =>
      "//" ++ url.userInfoText ++ host.text ++ ((url.port.map fun n => s!":{n}").getD "")
    | none =>
      match url.path with
      | .segments ("" :: _ :: _) => "/."
      | _ => ""
  url.scheme ++ ":" ++ authority ++ pathText url.path ++ ((url.query.map ("?" ++ ·)).getD "") ++
    ((url.fragment.map ("#" ++ ·)).getD "")

/-- The text of the host, if there is one that is not empty. -/
def hostText? (url : Url) : Option String := (url.host.map Host.text).filter (!·.isEmpty)

/-! ## Reading -/

/-- The scheme in lower case and what follows its colon. -/
def takeScheme? (cs : List Char) : Option (String × List Char) :=
  let name := cs.takeWhile fun c => c.isAlphanum || "+-.".toList.contains c
  match cs.drop name.length, name with
  | ':' :: rest, c :: _ => if c.isAlpha then some (String.ofList (name.map Char.toLower), rest) else none
  | _, _ => none

/-- Whether a segment stands for the parent. -/
def isDoubleDot (segment : List Char) : Bool :=
  [".", "%2e"].any fun a => [".", "%2e"].any fun b =>
    segment.map Char.toLower == (a ++ b).toList

/-- Whether a segment stands for its own place. -/
def isSingleDot (segment : List Char) : Bool :=
  segment == ['.'] || segment.map Char.toLower == "%2e".toList

/-- Whether a segment is the letter of a drive. -/
def isDriveLetter (segment : List Char) : Bool :=
  match segment with
  | [c, mark] => c.isAlpha && (mark == ':' || mark == '|')
  | _ => false

/-- Appends the segments of a path to those before it, the last one first; a segment of dots moves
within the path, and the first drive letter of a file stays. -/
def addSegments (file : Bool) : List String → List (List Char) → List String
  | done, [] => done
  | done, segment :: rest =>
    let last := rest.isEmpty
    let done' :=
      if isDoubleDot segment then
        let shortened := match done with
          | [only] => if file && isDriveLetter only.toList then [only] else []
          | _ => done.drop 1
        if last then "" :: shortened else shortened
      else if isSingleDot segment then (if last then "" :: done else done)
      else
        let text := String.ofList (percentEncode codedInPath segment)
        if file && done.isEmpty && isDriveLetter segment then
          (String.ofList (segment.take 1 ++ [':'])) :: done
        else text :: done
    addSegments file done' rest

/-- The segments of a path that follows its first slash. -/
def pathSegments (special file : Bool) (base : List String) (cs : List Char) : List String :=
  let divides c := c == '/' || (special && c == '\\')
  (addSegments file base.reverse (Text.splitAtEach divides cs)).reverse

/-- Cuts a text before its query and fragment. -/
def cutQuery (cs : List Char) : List Char × List Char :=
  let ends c := c == '?' || c == '#'
  (cs.takeWhile (!ends ·), cs.dropWhile (!ends ·))

/-- The query and fragment at the end of an address. -/
def queryAndFragment (special : Bool) (cs : List Char) : Option String × Option String :=
  let fragmentOf (cs : List Char) := match cs with
    | '#' :: rest => some (String.ofList (percentEncode codedInFragment rest))
    | _ => none
  match cs with
  | '?' :: rest =>
    let query := rest.takeWhile (· != '#')
    (some (String.ofList (percentEncode (codedInQuery special) query)),
      fragmentOf (rest.dropWhile (· != '#')))
  | _ => (none, fragmentOf cs)

/-- The port of an authority; the usual port of the scheme is not kept. -/
def takePort (scheme : String) (cs : List Char) : Except UrlError (Option Nat) :=
  if !cs.all Char.isDigit then .error .port
  else if cs.isEmpty then .ok none
  else
    let n := Number.digitsValue 0 cs
    if 65535 < n then .error .port
    else .ok (if defaultPort? scheme == some n then none else some n)

/-- The user name, password and the rest of an authority. -/
def takeUserInfo (authority : List Char) : Except UrlError (String × Option String × List Char) :=
  match Text.cutChars ['@'] authority.reverse with
  | none => .ok ("", none, authority)
  | some (rest, info) =>
    let rest := rest.reverse
    let info := info.reverse
    if info.isEmpty then
      if rest.isEmpty then .error .emptyHost else .ok ("", none, rest)
    else
      let code (cs : List Char) := String.ofList (percentEncode codedInUserInfo cs)
      let name := info.takeWhile (· != ':')
      match info.dropWhile (· != ':') with
      | [] | [_] => .ok (code name, none, rest)
      | _ :: password => .ok (code name, some (code password), rest)

/-- Cuts an authority before its port, at the first colon outside of brackets. -/
def cutPort : Bool → List Char → List Char × Option (List Char)
  | _, [] => ([], none)
  | inside, c :: cs =>
    if c == ':' && !inside then ([], some cs)
    else
      let inside := if c == '[' then true else if c == ']' then false else inside
      let (host, port) := cutPort inside cs
      (c :: host, port)

/-- Reads the authority after two slashes, and the rest of an address. -/
def ofAuthority (scheme : String) (cs : List Char) : Except UrlError Url := do
  let web := isWebScheme scheme
  let ends c := c == '/' || c == '?' || c == '#' || (web && c == '\\')
  let authority := cs.takeWhile (!ends ·)
  let rest := cs.dropWhile (!ends ·)
  -- An authority that is cut off right after its user info has an empty rest, not an empty text.
  let (username, password, remaining) ←
    if authority == ['@'] && rest.isEmpty then .ok ("", none, []) else takeUserInfo authority
  let (hostChars, portChars) := cutPort false remaining
  if hostChars.isEmpty && (web || portChars.isSome || !username.isEmpty || password.isSome) then
    .error .emptyHost
  else
    let host ← if web then Host.ofText hostChars else Host.ofOpaque hostChars
    let port ← match portChars with
      | some digits => takePort scheme digits
      | none => .ok none
    let (path, tail) := cutQuery rest
    let segments := match path with
      | [] => if web then [""] else []
      | _ :: more => pathSegments web false [] more
    let (query, fragment) := queryAndFragment web tail
    .ok ⟨scheme, username, password, some host, port, .segments segments, query, fragment⟩

/-- The segments of the path of a file, without empty ones at the front. -/
def fileSegments (cs : List Char) : List String :=
  let segments := pathSegments true true [] cs
  match segments.dropWhile (·.isEmpty) with
  | [] => [""]
  | parts => parts

/-- Reads an address of a file after its scheme. -/
def ofFile (cs : List Char) : Except UrlError Url := do
  let isSlash c := c == '/' || c == '\\'
  let finish (host : Option Host) (cs : List Char) : Url :=
    let (path, tail) := cutQuery cs
    let (query, fragment) := queryAndFragment true tail
    let path := match path with
      | c :: rest => if isSlash c then rest else path
      | [] => []
    ⟨"file", "", none, some (host.getD (.domain "")), none, .segments (fileSegments path), query,
      fragment⟩
  match cs with
  | a :: b :: rest =>
    if isSlash a && isSlash b then
      let ends c := isSlash c || c == '?' || c == '#'
      let hostChars := rest.takeWhile (!ends ·)
      if isDriveLetter hostChars || hostChars.isEmpty then .ok (finish none rest)
      else
        let host ← Host.ofText hostChars
        match host with
        | .domain "localhost" => .ok (finish none (rest.drop hostChars.length))
        | _ => .ok (finish (some host) (rest.drop hostChars.length))
    else .ok (finish none cs)
  | _ => .ok (finish none cs)

/-- Reads an address of a scheme that is neither of the web nor that of files. -/
def ofOtherScheme (scheme : String) (cs : List Char) : Except UrlError Url :=
  match cs with
  | '/' :: '/' :: rest => ofAuthority scheme rest
  | _ =>
    let (path, tail) := cutQuery cs
    let (query, fragment) := queryAndFragment false tail
    let path := match path with
      | '/' :: rest => .segments (pathSegments false false [] rest)
      | _ => .opaquePart (String.ofList (percentEncode isControlOrNotAscii path))
    .ok ⟨scheme, "", none, none, none, path, query, fragment⟩

/-- Reads an address. Controls and spaces at its ends and tabs and line ends anywhere are no part of
it. -/
def parse (s : String) : Except UrlError Url :=
  let isEdge (c : Char) := c.toNat ≤ 0x20
  let cs := ((s.toList.dropWhile isEdge).reverse.dropWhile isEdge).reverse
  let cs := cs.filter fun c => !(c == '\t' || c == '\n' || c == '\r')
  match takeScheme? cs with
  | none => .error .withoutBase
  | some (scheme, rest) =>
    if scheme == "file" then ofFile rest
    else if isWebScheme scheme then
      ofAuthority scheme (rest.dropWhile fun c => c == '/' || c == '\\')
    else ofOtherScheme scheme rest

/-- The address that a relative path has below another. -/
def child (url : Url) (path : String) : Url :=
  match url.path with
  | .segments parts =>
    let special := isSpecialScheme url.scheme
    { url with
      path := .segments (pathSegments special (url.scheme == "file") parts.dropLast path.toList)
      query := none
      fragment := none }
  | .opaquePart _ => url

/-- The host that an address names, in lower case. -/
def hostOf? (s : String) : Option String :=
  match parse (Text.trim s) with
  | .ok url => url.hostText?.map Text.asciiLower
  | .error _ => none

/-! ## Blocked hosts

A list of hosts blocks each of them with everything below it. -/

/-- Whether a host is on the list or below a host of the list. -/
def isBlockedHost (blocked : List String) (host : String) : Bool :=
  blocked.any fun domain => host == domain || Text.endsWith host ("." ++ domain)

/-- Whether an address has a blocked host. -/
def isBlocked (blocked : List String) (url : String) : Bool :=
  ((hostOf? url).map (isBlockedHost blocked)).getD false

end Url

end DynamicContent
