-- SUMMARY: The parts of a URL reference.
import ApiJourney.Fault
import ApiJourney.Text.Digit
import ApiJourney.Text.Letter
import ApiJourney.Text.Search

/-!
# URL references

A reference is split into scheme, host, path, parameters, query and fragment, and
written from them again. Which schemes have hosts, parameters or relative
references is fixed. Tabs and line breaks count nowhere, nor do blanks and
control characters in front. In brackets a host is an IPv6 address, whose last 32 bits
may be written as an IPv4 address and which may name a zone, or an address of a future
version.
-/

namespace ApiJourney.Url

open ApiJourney.Text

def isHexDigit (c : Char) : Bool :=
  isAsciiDigit c || ('a' ≤ c && c ≤ 'f') || ('A' ≤ c && c ≤ 'F')

/-! ## Parts of addresses -/

/-- A decimal number from 0 to 255 without leading zeros. -/
def isOctet (cs : List Char) : Bool :=
  !cs.isEmpty && cs.length ≤ 3 && cs.all isAsciiDigit
    && (cs == ['0'] || cs.head? != some '0')
    && cs.foldl (fun n c => n * 10 + (c.toNat - 48)) 0 ≤ 255

def isIPv4 (cs : List Char) : Bool :=
  let octets := split ['.'] none cs
  octets.length == 4 && octets.all isOctet

/-- Up to four hexadecimal digits. -/
def isGroup (cs : List Char) : Bool :=
  !cs.isEmpty && cs.length ≤ 4 && cs.all isHexDigit

/-! ## Addresses -/

/-- The groups with a final IPv4 address written as two of them. -/
def withoutIPv4? (groups : List (List Char)) : Option (List (List Char)) :=
  match groups.getLast? with
  | none => some groups
  | some last =>
    if !last.contains '.' then some groups
    else if isIPv4 last then some (groups.dropLast ++ [['0'], ['0']])
    else none

/-- Groups before and behind a gap; an empty group may stand only at the outer end, next
    to the gap. -/
def isGapped (before after : List (List Char)) : Bool :=
  let before := if before == [[]] then [] else before
  let after := if after == [[]] then [] else after
  before.all isGroup && after.all isGroup && before.length + after.length < 8

/-- The positions of the empty groups between the first and the last one. -/
def gaps (groups : List (List Char)) : List Nat :=
  (List.range (groups.length - 1)).filter fun i => 0 < i && groups[i]? == some []

def isIPv6Body (cs : List Char) : Bool :=
  let parts := split [':'] none cs
  if parts.length < 3 then false
  else match withoutIPv4? parts with
    | none => false
    | some groups =>
      if 9 < groups.length then false
      else match gaps groups with
        | [] => groups.length == 8 && groups.all isGroup
        | [i] => isGapped (groups.take i) (groups.drop (i + 1))
        | _ => false

/-- An IPv6 address; a percent sign starts its zone, which is not empty. -/
def isIPv6 (cs : List Char) : Bool :=
  let body := cs.takeWhile (· != '%')
  let zoneOk := match cs.dropWhile (· != '%') with
    | [] => true
    | _ :: zone => !zone.isEmpty && !zone.contains '%'
  !cs.contains '/' && zoneOk && isIPv6Body body

/-- An address of a future version: `v`, its number in hexadecimal, a point and a text. -/
def isFuture (cs : List Char) : Bool :=
  match cs with
  | 'v' :: rest =>
    match rest.takeWhile isHexDigit, rest.dropWhile isHexDigit with
    | _ :: _, '.' :: _ :: _ => true
    | _, _ => false
  | _ => false

/-- Whether a text may stand in brackets. -/
def isBracketed (cs : List Char) : Bool :=
  if cs.head? == some 'v' then isFuture cs else isIPv6 cs

/-! ## References -/

structure Reference where
  scheme : List Char
  host : List Char
  path : List Char
  params : List Char
  query : List Char
  fragment : List Char
  deriving DecidableEq

/-! ## Schemes -/

/-- Schemes with references relative to another one. -/
def relativeSchemes : List String :=
  ["", "ftp", "http", "gopher", "nntp", "imap", "wais", "file", "https", "shttp", "mms",
   "prospero", "rtsp", "rtsps", "rtspu", "sftp", "svn", "svn+ssh", "ws", "wss"]

/-- Schemes whose references name a host. -/
def hostSchemes : List String :=
  ["", "ftp", "http", "gopher", "nntp", "telnet", "imap", "wais", "file", "mms", "https",
   "shttp", "snews", "prospero", "rtsp", "rtsps", "rtspu", "rsync", "svn", "svn+ssh", "sftp",
   "nfs", "git", "git+ssh", "ws", "wss"]

/-- Schemes whose paths may end in parameters. -/
def paramSchemes : List String :=
  ["", "ftp", "hdl", "prospero", "http", "imap", "https", "shttp", "rtsp", "rtsps", "rtspu",
   "sip", "sips", "mms", "sftp", "tel"]

def among (schemes : List String) (scheme : List Char) : Bool :=
  schemes.any fun s => s.toList == scheme

def isSchemeChar (c : Char) : Bool :=
  isAsciiLetter c || isAsciiDigit c || c == '+' || c == '-' || c == '.'

def lowerAscii (c : Char) : Char :=
  if 'A' ≤ c && c ≤ 'Z' then Char.ofNat (c.toNat + 32) else c

/-! ## Splitting -/

/-- The text before the first `mark` and the text behind it, if there is one. -/
def cut? (mark : Char) (cs : List Char) : Option (List Char × List Char) :=
  match cs.dropWhile (· != mark) with
  | [] => none
  | _ :: rest => some (cs.takeWhile (· != mark), rest)

def cutOff (mark : Char) (cs : List Char) : List Char × List Char :=
  (cut? mark cs).getD (cs, [])

/-- A reference without what counts nowhere. -/
def cleaned (cs : List Char) : List Char :=
  (cs.dropWhile fun c => c.toNat ≤ 32).filter fun c => c != '\t' && c != '\r' && c != '\n'

/-- The scheme, or the default one, and the rest. -/
def splitScheme (default cs : List Char) : List Char × List Char :=
  match cut? ':' cs with
  | some (c :: name, rest) =>
    if isAsciiLetter c && name.all isSchemeChar then ((c :: name).map lowerAscii, rest) else (default, cs)
  | _ => (default, cs)

def endsHost (c : Char) : Bool :=
  c == '/' || c == '?' || c == '#'

/-- The host behind two slashes, and the rest. -/
def splitHost (cs : List Char) : List Char × List Char :=
  match cs with
  | '/' :: '/' :: rest => (rest.takeWhile (!endsHost ·), rest.dropWhile (!endsHost ·))
  | _ => ([], cs)

/-- Characters that stand for one of `/?#@:`, alone or with others. -/
def disguised : List Nat :=
  [0x2047, 0x2048, 0x2049, 0x2100, 0x2101, 0x2105, 0x2106, 0x2A74, 0xFE13, 0xFE16, 0xFE55, 0xFE56,
   0xFE5F, 0xFE6B, 0xFF03, 0xFF0F, 0xFF1A, 0xFF1F, 0xFF20]

/-- The text between the first opening bracket and the next closing one. -/
def bracketed (host : List Char) : List Char :=
  (cutOff ']' (cutOff '[' host).2).1

/-- Brackets come in pairs around an address, and no character is disguised. -/
def isHost (host : List Char) : Bool :=
  host.contains '[' == host.contains ']'
    && (!host.contains '[' || isBracketed (bracketed host))
    && !host.any fun c => disguised.contains c.toNat

/-- The path and its parameters: what follows the first semicolon of the last segment. -/
def splitParams (path : List Char) : List Char × List Char :=
  let last := (path.reverse.takeWhile (· != '/')).reverse
  match cut? ';' last with
  | some (name, params) => (path.take (path.length - last.length) ++ name, params)
  | none => (path, [])

/-- The parts of a reference; one without a scheme has the default one. -/
def Reference.ofText (default cs : List Char) : Except Fault Reference :=
  let (scheme, rest) := splitScheme default (cleaned cs)
  let (host, rest) := splitHost rest
  if !isHost host then .error .badValue
  else
    let (rest, fragment) := cutOff '#' rest
    let (path, query) := cutOff '?' rest
    let (path, params) := if among paramSchemes scheme then splitParams path else (path, [])
    .ok ⟨scheme, host, path, params, query, fragment⟩

/-! ## Writing -/

/-- A part behind its mark, nothing when it is empty. -/
def marked (mark : Char) (part : List Char) : List Char :=
  if part.isEmpty then [] else mark :: part

/-- The host behind two slashes, where there is one or the scheme has one or the path
    could be taken for one, and the path. -/
def writeHost (scheme host path : List Char) : List Char :=
  let hasHost := !host.isEmpty || (!scheme.isEmpty && among hostSchemes scheme)
  if hasHost || ['/', '/'].isPrefixOf path then
    let rooted := if path.isEmpty || path.head? == some '/' then path else '/' :: path
    ['/', '/'] ++ host ++ rooted
  else path

def Reference.write (r : Reference) : List Char :=
  let path := r.path ++ marked ';' r.params
  let start := if r.scheme.isEmpty then [] else r.scheme ++ [':']
  start ++ writeHost r.scheme r.host path ++ marked '?' r.query ++ marked '#' r.fragment

end ApiJourney.Url
