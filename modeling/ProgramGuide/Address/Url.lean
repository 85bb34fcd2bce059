import ProgramGuide.Address.Host

/-!
# Absolute URLs

Whether a text is an absolute URL.  Schemes of the web need a host; what follows it is
never at fault.
-/

namespace ProgramGuide.Address

inductive UrlFault where
  | noScheme
  | emptyHost
  | portNumber
  | host (fault : HostFault)
  deriving DecidableEq, Repr

def UrlFault.message : UrlFault → String
  | .noScheme => "relative URL without a base"
  | .emptyHost => "empty host"
  | .portNumber => "invalid port number"
  | .host .ipv4 => "invalid IPv4 address"
  | .host .ipv6 => "invalid IPv6 address"
  | .host .domainName => "invalid international domain name"
  | .host .domainCharacter => "invalid domain character"

inductive Scheme where
  | web | file | other
  deriving DecidableEq, Repr

def Scheme.ofName (name : List Char) : Scheme :=
  let name := String.ofList (name.map Char.toLower)
  if name == "file" then .file
  else if ["http", "https", "ws", "wss", "ftp"].contains name then .web
  else .other

/-- Controls and spaces at the ends are not part of a URL, nor are tabs and line ends
anywhere in it. -/
def significant (cs : List Char) : List Char :=
  let isEdge (c : Char) := c.toNat ≤ 0x20
  let cs := ((cs.dropWhile isEdge).reverse.dropWhile isEdge).reverse
  cs.filter fun c => !(c == '\t' || c == '\n' || c == '\r')

def scheme? : List Char → Option (List Char × List Char)
  | [] => none
  | c :: cs =>
      let isNameCharacter (c : Char) := c.isAlphanum || c == '+' || c == '-' || c == '.'
      if c.isAlpha then
        match cs.dropWhile isNameCharacter with
        | ':' :: rest => some (c :: cs.takeWhile isNameCharacter, rest)
        | _ => none
      else none

def Scheme.isSlash (scheme : Scheme) (c : Char) : Bool :=
  c == '/' || (scheme != .other && c == '\\')

def Scheme.endsAuthority (scheme : Scheme) (c : Char) : Bool :=
  scheme.isSlash c || c == '?' || c == '#'

/-- The user part up to the last `@` of an authority, if it has one, and the rest. -/
def splitUser (authority : List Char) : Option (List Char) × List Char :=
  if authority.contains '@' then
    let host := (authority.reverse.takeWhile (· != '@')).reverse
    (some (authority.take (authority.length - host.length - 1)), host)
  else (none, authority)

def splitPort (insideBrackets : Bool) : List Char → List Char × Option (List Char)
  | [] => ([], none)
  | c :: cs =>
      if c == ':' && !insideBrackets then ([], some cs)
      else
        let inside := if c == '[' then true else if c == ']' then false else insideBrackets
        let (host, number) := splitPort inside cs
        (c :: host, number)

def isPort (cs : List Char) : Bool := cs.all Char.isDigit && Text.ofDigits cs ≤ 65535

def namesUser (user : List Char) : Bool := !(user == [] || user == [':'])

def checkAuthority (scheme : Scheme) (cs : List Char) : Except UrlFault Unit := do
  let authority := cs.takeWhile fun c => !scheme.endsAuthority c
  let (user, rest) := splitUser authority
  let (host, number) := splitPort false rest
  if user == some [] && rest.isEmpty && authority.length < cs.length then throw .emptyHost
  if host.isEmpty then
    if scheme == .web || number.isSome || namesUser (user.getD []) then throw .emptyHost
  else
    let checked := if scheme == .other then checkOpaqueHost host else checkHost host
    match checked with
    | .ok [] => throw .emptyHost
    | .ok _ => pure ()
    | .error fault => throw (.host fault)
  if !isPort ((number.getD []).takeWhile (· != '\\')) then throw .portNumber

/-- A drive letter with its mark, which belongs to the path. -/
def isDrive : List Char → Bool
  | [letter, mark] => letter.isAlpha && (mark == ':' || mark == '|')
  | _ => false

def checkFileHost (host : List Char) : Except UrlFault Unit :=
  if host.isEmpty || isDrive host then .ok ()
  else
    match checkHost host with
    | .ok [] => .error .emptyHost
    | .ok _ => .ok ()
    | .error fault => .error (.host fault)

def checkUrl (url : String) : Except UrlFault Unit :=
  match scheme? (significant url.toList) with
  | none => .error .noScheme
  | some (name, rest) =>
      let scheme := Scheme.ofName name
      match scheme with
      | .web => checkAuthority .web (rest.dropWhile scheme.isSlash)
      | .file =>
          match rest with
          | a :: b :: rest =>
              if scheme.isSlash a && scheme.isSlash b then
                checkFileHost (rest.takeWhile fun c => !scheme.endsAuthority c)
              else .ok ()
          | _ => .ok ()
      | .other =>
          match rest with
          | '/' :: '/' :: rest => checkAuthority .other rest
          | _ => .ok ()

end ProgramGuide.Address
