import Courier.Http.Url.Host

/-!
# Addresses

An address is read as one that stands alone.  A scheme of the web family has an authority whatever
number of slashes stands before it, and a path without dot segments; a file has a host after two
slashes or more, and a path that may start with a drive; any other scheme has an authority after
exactly two slashes, and without a slash its path is one opaque text.  An authority without a host is
an empty name.
-/

namespace Courier

structure Url where
  scheme : List Char
  user : List Char
  password : Option (List Char)
  host : Option Host
  /-- The number after the host, unless it is the usual one. -/
  service : Option Nat
  path : List Char
  query : Option (List Char)
  fragment : Option (List Char)
  deriving DecidableEq

namespace Url

/-- Why a text is no address. -/
inductive Defect where
  | noScheme
  | host (defect : Host.Defect)
  | service
  deriving DecidableEq

def Defect.message : Defect → String
  | .noScheme => "relative URL without a base"
  | .host .empty => "empty host"
  | .host .name => "invalid international domain name"
  | .host .four => "invalid IPv4 address"
  | .host .six => "invalid IPv6 address"
  | .host .opaqueName => "invalid domain character"
  | .service => "invalid port number"

/-! ## Encoding sets -/

def isPlain (c : Char) : Bool := 0x20 ≤ c.toNat && c.toNat < 0x7F

/-- Characters that stand for themselves, those of a text apart. -/
def keeps (encoded : String) (c : Char) : Bool := isPlain c && !encoded.toList.contains c

def fragmentKeeps : Char → Bool := keeps " \"<>`"

def pathKeeps : Char → Bool := keeps " \"<>`#?\x7b\x7d"

def userKeeps : Char → Bool := keeps " \"<>`#?\x7b\x7d/:;=@[\\]^|"

def queryKeeps (web : Bool) : Char → Bool := keeps (if web then " \"#<>'" else " \"#<>")

/-! ## Parts -/

/-- Characters that count: none of the blanks and controls around the address, and no tab or line
break anywhere. -/
def clean (cs : List Char) : List Char :=
  let blank (c : Char) : Bool := c.toNat ≤ 0x20
  (((cs.dropWhile blank).reverse.dropWhile blank).reverse).filter fun c ↦
    c ≠ '\t' ∧ c ≠ '\n' ∧ c ≠ '\r'

/-- The text before and after the first character of a kind. -/
def cutAt (separator : Char → Bool) (cs : List Char) : List Char × Option (List Char) :=
  match cs.dropWhile (fun c ↦ !separator c) with
  | [] => (cs, none)
  | _ :: rest => (cs.takeWhile fun c ↦ !separator c, some rest)

/-- The text before and after the last at sign. -/
def cutLastAt (cs : List Char) : Option (List Char) × List Char :=
  match cutAt (· = '@') cs.reverse with
  | (_, none) => (none, cs)
  | (after, some before) => (some before.reverse, after.reverse)

/-- The scheme in lower case and what follows its colon. -/
def readScheme (cs : List Char) : Option (List Char × List Char) :=
  let isSchemeChar (c : Char) : Bool := c.isAlphanum || c = '+' || c = '-' || c = '.'
  match cs with
  | [] => none
  | first :: _ =>
    if !first.isAlpha then none
    else
      match cs.dropWhile isSchemeChar with
      | ':' :: rest => some ((cs.takeWhile isSchemeChar).map Char.toLower, rest)
      | _ => none

/-- The usual service number of a scheme of the web family. -/
def usualService (scheme : String) : Option Nat :=
  if scheme = "http" ∨ scheme = "ws" then some 80
  else if scheme = "https" ∨ scheme = "wss" then some 443
  else if scheme = "ftp" then some 21
  else none

def isWeb (scheme : List Char) : Bool := (usualService (String.ofList scheme)).isSome

/-- The host and what follows its colon, if there is one; a colon in brackets belongs to the host. -/
def cutHost (inside : Bool) : List Char → List Char × Option (List Char)
  | [] => ([], none)
  | c :: rest =>
    if c = ':' && !inside then ([], some rest)
    else
      let (host, service) := cutHost (c = '[' || (inside && c ≠ ']')) rest
      (c :: host, service)

/-- A service number of at most sixteen bits, none when there are no digits, and what follows it, which
may only start with a backslash. -/
def readService (cs : List Char) : Except Defect (Option Nat × List Char) :=
  let digits := cs.takeWhile Char.isDigit
  let rest := cs.dropWhile Char.isDigit
  let n := digits.foldl (fun n c ↦ n * 10 + (c.toNat - 48)) 0
  if 65535 < n ∨ rest.head?.any (· ≠ '\\') then .error .service
  else .ok (if digits.isEmpty then none else some n, rest)

structure Authority where
  user : List Char
  password : Option (List Char)
  host : Option Host
  service : Option Nat

/-- Nobody at no host. -/
def Authority.absent : Authority := ⟨[], none, none, none⟩

/-- Nobody at a host without a name. -/
def Authority.empty : Authority := ⟨[], none, some (.name []), none⟩

/-- Name and password before the at sign. -/
def readUser (cs : List Char) : List Char × Option (List Char) :=
  let (user, password) := cutAt (· = ':') cs
  (Percent.encode userKeeps user,
    (password.filter fun p ↦ !p.isEmpty).map (Percent.encode userKeeps))

/-- An authority, and what is left of it for the path.  `followed` tells whether the address goes on
after it. -/
def readAuthority (scheme cs : List Char) (followed : Bool) :
    Except Defect (Authority × List Char) := do
  let (userinfo, place) := cutLastAt cs
  let (user, password) := readUser (userinfo.getD [])
  let (hostText, serviceText) := cutHost false place
  let host ←
    if isWeb scheme then (Host.read hostText).mapError Defect.host
    else if hostText.isEmpty then
      if serviceText.isSome ∨ !user.isEmpty ∨ password.isSome ∨ (userinfo = some [] ∧ followed) then
        .error (.host .empty)
      else .ok (.name [])
    else (Host.readOpaque hostText).mapError Defect.host
  let (service, rest) ← readService (serviceText.getD [])
  let service := service.filter fun n ↦ usualService (String.ofList scheme) ≠ some n
  .ok (⟨user, password, some host, service⟩, rest)

/-! ## Paths -/

def isSlash (c : Char) : Bool := c = '/' || c = '\\'

def lowered (segment : List Char) : String := String.ofList (segment.map Char.toLower)

def isDot (segment : List Char) : Bool := [".", "%2e"].contains (lowered segment)

def isDoubleDot (segment : List Char) : Bool :=
  ["..", ".%2e", "%2e.", "%2e%2e"].contains (lowered segment)

/-- Whether a segment is the letter of a drive, before a colon or a bar. -/
def isDrive : List Char → Bool
  | [letter, sign] => letter.isAlpha && (sign = ':' || sign = '|')
  | _ => false

/-- A drive with its colon. -/
def driveOf (segment : List Char) : List Char := segment.take 1 ++ [':']

/-- The segments without dots; `done` holds the earlier ones from the last to the first.  Two dots do
not lead out of a drive.  In a file's path the first segment may name a drive. -/
def resolve (file : Bool) (done : List (List Char)) : List (List Char) → List (List Char)
  | [] => done.reverse
  | segment :: rest =>
    let close (done : List (List Char)) : List (List Char) :=
      if rest.isEmpty then [] :: done else done
    if isDoubleDot segment then
      resolve file (close (if done.head?.any isDrive then done else done.drop 1)) rest
    else if isDot segment then resolve file (close done) rest
    else if file && done.isEmpty && isDrive segment then resolve file [driveOf segment] rest
    else resolve file (segment :: done) rest

def pathText (segments : List (List Char)) : List Char :=
  segments.flatMap fun segment ↦ '/' :: Percent.encode pathKeeps segment

/-- The path of a web address, where a backslash is a slash. -/
def webPath (cs : List Char) : List Char :=
  pathText (resolve false [] (Text.pieces isSlash (cs.drop 1)))

/-- The path of an address of a foreign scheme, after an authority or with a slash at its start. -/
def foreignPath (cs : List Char) : List Char :=
  if cs.isEmpty then []
  else
    let cs := if cs.head? = some '/' then cs.drop 1 else cs
    pathText (resolve false [] (Text.pieces (· = '/') cs))

def opaquePath (cs : List Char) : List Char := Percent.encode isPlain cs

/-! ## Files -/

/-- A file on a host.  A path that names a drive has no host, and empty segments at its start do not
count. -/
def fileAt (host : Host) (cs : List Char) : Authority × List Char :=
  let segments := resolve true [] (Text.pieces isSlash cs)
  let host := if segments.head?.any isDrive then .name [] else host
  let segments := match segments.dropWhile List.isEmpty with
    | [] => [[]]
    | named => named
  (⟨[], none, some host, none⟩, pathText segments)

/-- The host of a file: none of its own for the machine itself. -/
def readFileHost (cs : List Char) : Except Defect Host := do
  if cs.isEmpty then .ok (.name [])
  else
    let host ← (Host.read cs).mapError Defect.host
    .ok (if host = .name "localhost".toList then .name [] else host)

/-- The host and the path of a file's address.  What looks like a drive is no host. -/
def readFile (cs : List Char) : Except Defect (Authority × List Char) := do
  match cs with
  | [] => .ok (fileAt (.name []) [])
  | first :: rest =>
    if !isSlash first then .ok (fileAt (.name []) cs)
    else if !rest.head?.any isSlash then .ok (fileAt (.name []) rest)
    else
      let place := rest.drop 1
      let hostText := place.takeWhile fun c ↦ !isSlash c
      if isDrive hostText then .ok (fileAt (.name []) place)
      else .ok (fileAt (← readFileHost hostText) ((place.dropWhile fun c ↦ !isSlash c).drop 1))

def isFile (scheme : List Char) : Bool := scheme = "file".toList

/-! ## Addresses -/

/-- The authority and the path of what follows the colon, up to a query or a fragment; `followed` tells
whether there is one. -/
def readPlace (scheme cs : List Char) (followed : Bool) : Except Defect (Authority × List Char) :=
  if isFile scheme then readFile cs
  else if isWeb scheme then do
    let rest := cs.dropWhile isSlash
    let (authority, _) ← readAuthority scheme (rest.takeWhile fun c ↦ !isSlash c) followed
    .ok (authority, webPath (rest.dropWhile fun c ↦ !isSlash c))
  else
    match cs with
    | '/' :: '/' :: rest => do
      let path := rest.dropWhile (· ≠ '/')
      let (authority, left) ← readAuthority scheme (rest.takeWhile (· ≠ '/'))
        (followed || !path.isEmpty)
      .ok (authority, foreignPath (left ++ path))
    | '/' :: _ => .ok (.absent, foreignPath cs)
    | _ => .ok (.absent, opaquePath cs)

def read (cs : List Char) : Except Defect Url :=
  match readScheme (clean cs) with
  | none => .error .noScheme
  | some (scheme, rest) => do
    let (rest, fragment) := cutAt (· = '#') rest
    let (rest, query) := cutAt (· = '?') rest
    let (authority, path) ← readPlace scheme rest (query.isSome || fragment.isSome)
    .ok
      { scheme
        user := authority.user
        password := authority.password
        host := authority.host
        service := authority.service
        path
        query := query.map (Percent.encode (queryKeeps (isWeb scheme || isFile scheme)))
        fragment := fragment.map (Percent.encode fragmentKeeps) }

/-- Whether a server is named. -/
def hasServer (url : Url) : Bool := url.host.any fun host ↦ host ≠ .name []

/-! ## Text -/

/-- Host and service number, as a server is addressed. -/
def hostText (url : Url) : List Char :=
  (url.host.map Host.text).getD [] ++
    match url.service with
    | some service => ':' :: Nat.toDigits 10 service
    | none => []

def userText (url : Url) : List Char :=
  match url.user, url.password with
  | [], none => []
  | user, none => user ++ ['@']
  | user, some password => user ++ ':' :: password ++ ['@']

/-- What is asked of the server: the path and the query. -/
def target (url : Url) : List Char :=
  url.path ++
    match url.query with
    | some query => '?' :: query
    | none => []

/-- The address in one line.  A path that starts with two slashes gets a dot in front where no host
keeps it from looking like one. -/
def text (url : Url) : String :=
  let place :=
    if url.host.isSome then '/' :: '/' :: url.userText ++ url.hostText
    else if url.path.take 2 = ['/', '/'] then ['/', '.']
    else []
  let fragment :=
    match url.fragment with
    | some fragment => '#' :: fragment
    | none => []
  String.ofList (url.scheme ++ ':' :: place ++ url.target ++ fragment)

end Url

end Courier
