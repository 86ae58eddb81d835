import ProbeReport.Url.Basic

namespace ProbeReport.Url

-- Splits at the first occurrence of a character, which belongs to neither part.
def cut? (mark : Char) (s : List Char) : Option (List Char × List Char) :=
  match s.dropWhile (· ≠ mark) with
  | [] => none
  | _ :: rest => some (s.takeWhile (· ≠ mark), rest)

-- Splits at the last occurrence.
def cutLast? (mark : Char) (s : List Char) : Option (List Char × List Char) :=
  (cut? mark s.reverse).map fun (after, before) => (before.reverse, after.reverse)

-- Blanks and controls at the ends do not count, nor do tabs and line ends anywhere.
def clean (s : List Char) : List Char :=
  (Text.trim (fun c => c.toNat ≤ 0x20) s).filter fun c => c ≠ '\t' && c ≠ '\n' && c ≠ '\r'

def isSchemeChar (c : Char) : Bool :=
  c.isAlphanum || c = '+' || c = '-' || c = '.'

-- A scheme begins with a letter and ends with a colon.
def scheme? (s : List Char) : Option (String × List Char) :=
  match cut? ':' s with
  | some (c :: name, rest) =>
    if c.isAlpha ∧ name.all isSchemeChar then
      some (String.ofList ((c :: name).map Char.toLower), rest)
    else none
  | _ => none

-- The parts of an address behind its scheme.
structure Parts where
  main : List Char
  query : Option (List Char)
  fragment : Option (List Char)

-- The first number sign begins the fragment, the first question mark before it the query.
def Parts.ofText (s : List Char) : Parts :=
  let (front, fragment) :=
    match cut? '#' s with
    | some (front, rest) => (front, some rest)
    | none => (s, none)
  match cut? '?' front with
  | some (main, rest) => ⟨main, some rest, fragment⟩
  | none => ⟨front, none, fragment⟩

def queryOf (special : Bool) (p : Parts) : Option String :=
  p.query.map fun s =>
    String.ofList (Percent.encode (if special then Percent.specialQuery else Percent.query) s)

def fragmentOf (p : Parts) : Option String :=
  p.fragment.map fun s => String.ofList (Percent.encode Percent.fragment s)

-- In well-known schemes a backslash separates like a slash.
def isSlash (special : Bool) (c : Char) : Bool := c = '/' || (special && c = '\\')

-- The segments between slashes; there is always one more than slashes.
def splitSlashes (special : Bool) : List Char → List (List Char)
  | [] => [[]]
  | c :: rest =>
    if isSlash special c then [] :: splitSlashes special rest
    else
      match splitSlashes special rest with
      | [] => [[c]]
      | piece :: more => (c :: piece) :: more

-- Dots may be written percent-encoded.
def dots (s : List Char) : String :=
  String.ofList (go s)
where
  go : List Char → List Char
    | [] => []
    | '%' :: '2' :: 'e' :: rest | '%' :: '2' :: 'E' :: rest => '.' :: go rest
    | c :: rest => c :: go rest

-- Appends segments to a path: one dot stays, two dots go up. Either leaves an empty last
-- segment when it is the last.
def extend (done : List String) : List (List Char) → List String
  | [] => done
  | part :: rest =>
    let isLast := rest.isEmpty
    if dots part = ".." then
      extend (if isLast then done.dropLast ++ [""] else done.dropLast) rest
    else if dots part = "." then
      extend (if isLast then done ++ [""] else done) rest
    else extend (done ++ [String.ofList (Percent.encode Percent.path part)]) rest

-- A path behind an authority: either empty or led by a slash. Well-known schemes always
-- have a root.
def rootedPath (special : Bool) (s : List Char) : Path :=
  match s with
  | [] => .segments (if special then [""] else [])
  | c :: rest =>
    let relative := if isSlash special c then rest else c :: rest
    .segments (extend [] (splitSlashes special relative))

def Host.ofBracketed? (s : List Char) : Except Error Host :=
  if s.getLast? = some ']' then
    match Ipv6.parse? (s.drop 1).dropLast with
    | some pieces => .ok (.ipv6 pieces)
    | none => .error .invalidIpv6
  else .error .invalidIpv6

-- The host of a well-known scheme: decoded, brought to the form for the wire, and taken as
-- an address when its last part is a number.
def Host.parse [Idna] (s : List Char) : Except Error Host :=
  if s.head? = some '[' then Host.ofBracketed? s
  else
    match (Text.Utf8.decode? (Percent.decode s)).bind fun name => Domain.toAscii? name.toList with
    | none => .error .invalidDomain
    | some [] => .error .emptyHost
    | some name =>
      if Ipv4.endsInNumber name then
        match Ipv4.parse? name with
        | some address => .ok (.ipv4 address)
        | none => .error .invalidIpv4
      else .ok (.domain (String.ofList name))

def isForbiddenInHost (c : Char) : Bool :=
  c = '\x00' || "\t\n\r #/:<>?@[\\]^|".toList.contains c

-- The host of any other scheme.
def Host.parseFree (s : List Char) : Except Error Host :=
  if s.head? = some '[' then Host.ofBracketed? s
  else if s.any isForbiddenInHost then .error .invalidHostCharacter
  else .ok (.free (String.ofList (Percent.encode Percent.none s)))

-- The colon that begins a port is the first one outside brackets.
def splitPort : Bool → List Char → List Char × Option (List Char)
  | _, [] => ([], none)
  | inside, c :: rest =>
    if c = ':' && !inside then ([], some rest)
    else
      let inside := if c = '[' then true else if c = ']' then false else inside
      let (host, port) := splitPort inside rest
      (c :: host, port)

-- Digits up to 65535. No digits, or the usual port of the scheme, are no port.
def parsePort (scheme : String) (s : List Char) : Except Error (Option Nat) :=
  if s.all Text.isDigit ∧ Text.valueIn 10 s ≤ 65535 then
    let port := Text.valueIn 10 s
    .ok (if s = [] ∨ usualPort? scheme = some port then none else some port)
  else .error .invalidPort

structure Authority where
  user : String
  password : String
  host : Host
  port : Option Nat

def credentialsOf (s : List Char) : String × String :=
  let encode := fun part => String.ofList (Percent.encode Percent.userinfo part)
  match cut? ':' s with
  | some (user, password) => (encode user, encode password)
  | none => (encode s, "")

-- What stands between the slashes behind a scheme and the path. Everything up to the last
-- at sign belongs to the user.
def Authority.parse [Idna] (scheme : String) (s : List Char) : Except Error Authority := do
  let special := isSpecial scheme
  let (userinfo, place) := (cutLast? '@' s).getD ([], s)
  let (user, password) := credentialsOf userinfo
  let (hostText, portText) := splitPort false place
  if hostText = [] ∧ (special ∨ portText.isSome ∨ user ≠ "" ∨ password ≠ "") then
    throw .emptyHost
  let host ← if special then Host.parse hostText else Host.parseFree hostText
  let port ← parsePort scheme (portText.getD [])
  return ⟨user, password, host, port⟩

def ofAuthority (scheme : String) (a : Authority) (path : Path) (p : Parts) : Url :=
  { scheme := scheme, user := a.user, password := a.password, host := some a.host
    port := a.port, path := path, query := queryOf (isSpecial scheme) p
    fragment := fragmentOf p }

-- Authority and path, behind the slashes.
def parseAuthority [Idna] (scheme : String) (main : List Char) (p : Parts) : Except Error Url := do
  let special := isSpecial scheme
  let authority ← Authority.parse scheme (main.takeWhile fun c => !isSlash special c)
  let path := rootedPath special (main.dropWhile fun c => !isSlash special c)
  return ofAuthority scheme authority path p

def isDriveLetter : List Char → Bool
  | [c, d] => c.isAlpha && (d = ':' || d = '|')
  | _ => false

-- Files are on this machine unless a host is named.
def parseFile [Idna] (p : Parts) : Except Error Url := do
  let here : Authority := ⟨"", "", .free "", none⟩
  match p.main with
  | a :: b :: rest =>
    if isSlash true a && isSlash true b then
      let name := rest.takeWhile fun c => !isSlash true c
      if name = [] || isDriveLetter name then
        return ofAuthority "file" here (rootedPath true rest) p
      else
        let host ← Host.parse name
        let host := if host = .domain "localhost" then .free "" else host
        let path := rootedPath true (rest.dropWhile fun c => !isSlash true c)
        return ofAuthority "file" { here with host := host } path p
    else return ofAuthority "file" here (rootedPath true p.main) p
  | _ => return ofAuthority "file" here (rootedPath true p.main) p

-- An address of a scheme that is not well known may have no authority.
def parseOther [Idna] (scheme : String) (p : Parts) : Except Error Url :=
  let bare := fun path : Path =>
    { scheme := scheme, user := "", password := "", host := none, port := none, path := path
      query := queryOf false p, fragment := fragmentOf p : Url }
  match p.main with
  | '/' :: '/' :: rest => parseAuthority scheme rest p
  | '/' :: rest => .ok (bare (rootedPath false ('/' :: rest)))
  | main => .ok (bare (.fixed (String.ofList (Percent.encode Percent.none main))))

def parseAbsolute [Idna] (scheme : String) (p : Parts) : Except Error Url :=
  if scheme = "file" then parseFile p
  else if isSpecial scheme then
    parseAuthority scheme (p.main.dropWhile (isSlash true)) p
  else parseOther scheme p

-- Reads an address that stands for itself.
def parse [Idna] (s : String) : Except Error Url :=
  match scheme? (clean s.toList) with
  | some (scheme, rest) => parseAbsolute scheme (.ofText rest)
  | none => .error .relativeWithoutBase

-- A reference without a scheme, seen from a web address: it may name another server, a path
-- from the root, a path beside the current one, or only another query or fragment.
def resolveRelative [Idna] (base : Url) (p : Parts) : Except Error Url :=
  let next := { base with query := queryOf true p, fragment := fragmentOf p }
  match p.main with
  | [] => .ok (if p.query.isSome then next else { next with query := base.query })
  | [c] =>
    if isSlash true c then .ok { next with path := .segments [""] }
    else .ok (beside next)
  | a :: b :: rest =>
    if isSlash true a && isSlash true b then
      parseAuthority base.scheme (rest.dropWhile (isSlash true)) p
    else if isSlash true a then .ok { next with path := rootedPath true (a :: b :: rest) }
    else .ok (beside next)
where
  beside (next : Url) : Url :=
    match base.path with
    | .segments parts =>
      { next with path := .segments (extend parts.dropLast (splitSlashes true p.main)) }
    | .fixed _ => next

-- Reads a reference as seen from a web address. The scheme of that address alone, without
-- two slashes behind it, adds nothing.
def resolve [Idna] (base : Url) (s : String) : Except Error Url :=
  let reference := clean s.toList
  match scheme? reference with
  | none => resolveRelative base (.ofText reference)
  | some (scheme, rest) =>
    let parts := Parts.ofText rest
    if scheme = base.scheme ∧ (parts.main.takeWhile (isSlash true)).length < 2 then
      resolveRelative base parts
    else parseAbsolute scheme parts

end ProbeReport.Url
