import ProgramGuide.Address.Domain
import ProgramGuide.Text.Percent

/-!
# Hosts

The host of a URL is a domain name, an IPv4 address in one of its many spellings, or an
IPv6 address in brackets.
-/

namespace ProgramGuide.Address

inductive HostFault where
  | ipv4 | ipv6 | domainName | domainCharacter
  deriving DecidableEq, Repr

/-! ## Addresses in numbers -/

def ofDigitsIn? (base : Nat) (cs : List Char) : Option Nat :=
  cs.foldlM
    (fun n c => (Text.hexDigit? c).bind fun d => if d < base then some (base * n + d) else none)
    0

/-- A part of an IPv4 address: decimal, octal behind `0`, hexadecimal behind `0x`. -/
def ipv4Number? : List Char → Option Nat
  | [] => none
  | '0' :: 'x' :: cs | '0' :: 'X' :: cs => ofDigitsIn? 16 cs
  | '0' :: c :: cs => ofDigitsIn? 8 (c :: cs)
  | cs => ofDigitsIn? 10 cs

private def dropLastEmpty (parts : List (List Char)) : List (List Char) :=
  match parts.getLast? with
  | some [] => parts.dropLast
  | _ => parts

/-- Whether a domain ends like a number, so that it must be an IPv4 address. -/
def endsInNumber (domain : List Char) : Bool :=
  match (dropLastEmpty (Text.splitAt '.' domain)).getLast? with
  | some last => (!last.isEmpty && last.all Char.isDigit) || (ipv4Number? last).isSome
  | none => false

/-- Up to four parts, each but the last one a byte; the last fills the bytes left. -/
def isIpv4 (domain : List Char) : Bool :=
  let parts := dropLastEmpty (Text.splitAt '.' domain)
  match parts.mapM ipv4Number? with
  | some numbers =>
      match numbers.getLast? with
      | some last =>
          numbers.length ≤ 4 && numbers.dropLast.all (· ≤ 255) &&
            last < Nat.pow 256 (5 - numbers.length)
      | none => false
  | none => false

private def isDottedByte (cs : List Char) : Bool :=
  !cs.isEmpty && cs.all Char.isDigit && Text.ofDigits cs ≤ 255 &&
    (cs.length == 1 || cs.head? != some '0')

/-- The sixteen-bit groups that a part of an IPv6 address fills: one for up to four
hexadecimal digits, two for a dotted address in last place. -/
def ipv6Groups? (isLast : Bool) (cs : List Char) : Option Nat :=
  if !cs.isEmpty && cs.length ≤ 4 && (Text.ofHexDigits? cs).isSome then some 1
  else
    let bytes := Text.splitAt '.' cs
    if isLast && bytes.length == 4 && bytes.all isDottedByte then some 2 else none

def ipv6Count? : List (List Char) → Option (Nat × Nat)
  | [] => some (0, 0)
  | [] :: rest => (ipv6Count? rest).map fun (groups, gaps) => (groups, gaps + 1)
  | part :: rest => do
      let (groups, gaps) ← ipv6Count? rest
      let more ← ipv6Groups? rest.isEmpty part
      some (groups + more, gaps)

def isIpv6 (cs : List Char) : Bool :=
  let parts := Text.splitAt ':' cs
  let trimmed :=
    match parts with
    | [] :: [] :: rest => some ([] :: rest)
    | [] :: _ => none
    | parts => some parts
  let trimmed :=
    match trimmed.map List.reverse with
    | some ([] :: [] :: rest) => some ([] :: rest)
    | some [[]] => none
    | some ([] :: _) => none
    | reversed => reversed
  match (trimmed.map List.reverse).bind ipv6Count? with
  | some (groups, 0) => groups == 8
  | some (groups, 1) => groups ≤ 7
  | _ => false

/-! ## Hosts of URLs -/

def checkHost (cs : List Char) : Except HostFault (List Char) :=
  match cs with
  | '[' :: rest =>
      if rest.getLast? == some ']' && isIpv6 rest.dropLast then .ok cs else .error .ipv6
  | cs =>
      match (Text.Percent.decode? cs).bind fun s => Domain.read? s.toList with
      | some domain =>
          if endsInNumber domain && !isIpv4 domain then .error .ipv4 else .ok domain
      | none => .error .domainName

def checkOpaqueHost (cs : List Char) : Except HostFault (List Char) :=
  match cs with
  | '[' :: rest =>
      if rest.getLast? == some ']' && isIpv6 rest.dropLast then .ok cs else .error .ipv6
  | cs =>
      if cs.any fun c => "\x00\t\n\r #/:<>?@[\\]^|".toList.contains c then
        .error .domainCharacter
      else .ok cs

end ProgramGuide.Address
