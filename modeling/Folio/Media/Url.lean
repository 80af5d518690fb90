import Folio.Media.DomainName
import Folio.Text.Digits
import Folio.Text.Lines
import Folio.Text.Utf8

/-!
# URLs

An absolute URL is read by the rules of the URL standard as far as its scheme, its host and its path
are concerned. A host is only checked. The path of a URL whose scheme is followed by no slash is
opaque; every other path is a list of percent-encoded segments in which the dot segments have been
resolved.
-/

namespace Folio

/-- The path of a URL. -/
inductive UrlPath where
  | opaquePath
  | segments (segments : List (List Char))
  deriving DecidableEq, Repr

/-- The parts of a URL that name a file. -/
structure Url where
  scheme : List Char
  /-- The host is present and is not the local machine. -/
  hasHost : Bool
  path : UrlPath
  deriving DecidableEq, Repr

namespace Url
open Text (hexValue? isHexDigit)

/-- The value of a hexadecimal digit. -/
def hexValue (c : Char) : Nat := (hexValue? c).getD 0

/-- The bytes of a character in UTF-8. -/
def utf8Bytes (c : Char) : List UInt8 := c.toString.toUTF8.toList

/-- The bytes that a text stands for once its percent escapes are resolved. -/
def percentDecode : List Char → List UInt8
  | [] => []
  | '%' :: a :: b :: rest =>
    if isHexDigit a && isHexDigit b then
      (16 * hexValue a + hexValue b).toUInt8 :: percentDecode rest
    else utf8Bytes '%' ++ percentDecode (a :: b :: rest)
  | c :: rest => utf8Bytes c ++ percentDecode rest

/-- A byte as a percent escape. -/
def percentByte (b : UInt8) : List Char :=
  ['%', (Nat.digitChar (b.toNat / 16)).toUpper, (Nat.digitChar (b.toNat % 16)).toUpper]

/-- A character that a path holds only in escaped form. -/
def needsEscape (c : Char) : Bool :=
  c.toNat < 33 || 126 < c.toNat || c ∈ ['"', '<', '>', '`', '#', '?', '\x7b', '\x7d']

/-- A segment of a path with its escapes made. -/
def encodeSegment (cs : List Char) : List Char :=
  cs.flatMap fun c => if needsEscape c then (utf8Bytes c).flatMap percentByte else [c]

/-! ## Hosts -/

/-- A part of an address in dotted notation: decimal, octal after a zero, hexadecimal after `0x`.
The outer option says whether it is a number, the inner one whether it fits 32 bits. -/
def addressNumber (cs : List Char) : Option (Option Nat) :=
  let (radix, digits) := match cs with
    | '0' :: 'x' :: rest => (16, rest)
    | '0' :: 'X' :: rest => (16, rest)
    | '0' :: d :: rest => (8, d :: rest)
    | cs => (10, cs)
  if cs.isEmpty then none
  else if digits.isEmpty then some (some 0)
  else if digits.all fun c => isHexDigit c && hexValue c < radix then
    let n := digits.foldl (fun n c => n * radix + hexValue c) 0
    some (if n ≤ 0xFFFFFFFF then some n else none)
  else none

/-- The labels of a host name; a dot at the end does not count. -/
def labels (host : List Char) : List (List Char) :=
  let parts := Text.splitOn '.' host
  if parts.length > 1 ∧ parts.getLast? = some [] then parts.dropLast else parts

/-- The host's last label is a number, so that the host has to be an address. -/
def endsInNumber (host : List Char) : Bool :=
  match (labels host).getLast? with
  | none => false
  | some last =>
    (!last.isEmpty && last.all Char.isDigit) || (addressNumber last).isSome

/-- An address in dotted notation of one to four parts. -/
def isDottedAddress (host : List Char) : Bool :=
  let parts := labels host
  match parts.mapM fun p => (addressNumber p).join with
  | none => false
  | some numbers =>
    match numbers.reverse with
    | [] => false
    | last :: rest =>
      rest.length ≤ 3 && last < Nat.pow 256 (4 - rest.length) && rest.all (· ≤ 255)

/-- The part of a colon-separated address before the first colon pair, and after it. -/
def cutAtDoubleColon (pieces : List (List Char)) : List (List Char) × Option (List (List Char)) :=
  match pieces with
  | [] => ([], none)
  | [p] => ([p], none)
  | [] :: rest => ([], some rest)
  | p :: rest =>
    let (before, after) := cutAtDoubleColon rest
    (p :: before, after)

/-- How many 16-bit pieces the groups of a colon-separated address take, when all are well formed;
only the last may be a dotted address, which takes two. -/
def pieceCount : List (List Char) → Option Nat
  | [] => some 0
  | [p] =>
    if p.contains '.' then
      let parts := Text.splitOn '.' p
      if parts.length = 4 ∧ parts.all fun q =>
          !q.isEmpty && q.all Char.isDigit && q.length ≤ 3 && (q.length = 1 || q.head? != some '0')
            && q.foldl (fun n c => 10 * n + hexValue c) 0 ≤ 255
      then some 2 else none
    else if !p.isEmpty ∧ p.length ≤ 4 ∧ p.all isHexDigit then some 1 else none
  | p :: rest =>
    if !p.isEmpty ∧ p.length ≤ 4 ∧ p.all isHexDigit then (pieceCount rest).map (· + 1) else none

/-- An address of eight 16-bit pieces; one row of zero pieces may be left out. -/
def isColonAddress (cs : List Char) : Bool :=
  let pieces := Text.splitOn ':' cs
  match pieces with
  | [] :: [] :: rest =>
    match if rest = [[]] then some 0 else pieceCount rest with
    | some n => n ≤ 7
    | none => false
  | _ =>
    let (before, after) := cutAtDoubleColon pieces
    match after with
    | none => pieceCount before == some 8
    | some after =>
      match pieceCount before, if after = [[]] then some 0 else pieceCount after with
      | some a, some b => !before.isEmpty && before.all (fun p => !p.contains '.') && a + b ≤ 7
      | _, _ => false

/-- A character that no host holds. -/
def isForbiddenInHost (c : Char) : Bool :=
  c ∈ ['\x00', '\t', '\n', '\r', ' ', '#', '/', ':', '<', '>', '?', '@', '[', '\\', ']', '^', '|']

/-- The address between square brackets, if the host is one. -/
def bracketed? (host : List Char) : Option (List Char) :=
  match host with
  | '[' :: rest => if rest.getLast? = some ']' then some rest.dropLast else some []
  | _ => none

/-- A host of a special scheme, as it is compared: a domain name or an address. -/
def specialHost? (host : List Char) : Option (List Char) :=
  match bracketed? host with
  | some address => if isColonAddress address then some host else none
  | none => do
    let spelled ← (Text.decodeUtf8 (percentDecode host)).toOption
    let domain := (← DomainName.ofText? spelled.toList).text
    guard (!domain.isEmpty && (!endsInNumber domain || isDottedAddress domain))
    return domain

/-- The host of a scheme that is not special is well formed. -/
def isOpaqueHost (host : List Char) : Bool :=
  match bracketed? host with
  | some address => isColonAddress address
  | none => !host.any isForbiddenInHost

/-! ## Paths -/

/-- A segment that stays in the same directory. -/
def isSingleDot (segment : List Char) : Bool :=
  segment.map Char.toLower ∈ [".".toList, "%2e".toList]

/-- A segment that goes up a directory. -/
def isDoubleDot (segment : List Char) : Bool :=
  segment.map Char.toLower ∈ ["..".toList, ".%2e".toList, "%2e.".toList, "%2e%2e".toList]

/-- A letter and a colon, as drives are named; the bar is an old spelling of the colon. -/
def isDriveLetter : List Char → Bool
  | [d, mark] => d.isAlpha && (mark = ':' || mark = '|')
  | _ => false

/-- The segments of a path without its last; the name of a drive stays. -/
def dropSegment (segments : List (List Char)) : List (List Char) :=
  if segments.getLast?.any isDriveLetter then segments else segments.dropLast

/-- The segments of a path with the dot segments resolved, after the segments `done`. -/
def resolveSegments (isFile : Bool) (done : List (List Char)) :
    List (List Char) → List (List Char)
  | [] => done
  | segment :: rest =>
    let trailing := if rest.isEmpty then [[]] else []
    if isDoubleDot segment then
      resolveSegments isFile (dropSegment done ++ trailing) rest
    else if isSingleDot segment then resolveSegments isFile (done ++ trailing) rest
    else
      let segment :=
        match segment with
        | [d, '|'] => if isFile && done.isEmpty && d.isAlpha then [d, ':'] else segment
        | _ => segment
      resolveSegments isFile (done ++ [segment]) rest

/-- A mark that ends the path. -/
def endsPath (c : Char) : Bool := c = '?' || c = '#'

/-- A mark that separates the segments of a path. -/
def isSlash (special : Bool) (c : Char) : Bool := c = '/' || (special && c = '\\')

/-- The segments of the path that the text, after its first slash, begins with, empty ones at its
front included. -/
def allSegments (isFile special : Bool) (cs : List Char) : List (List Char) :=
  let raw := (Text.splitWhen (isSlash special) (cs.takeWhile (!endsPath ·))).map encodeSegment
  resolveSegments isFile [] raw

/-- The segments of the path that the text, after its first slash, begins with; the path of a file
has no empty ones at its front. -/
def readSegments (isFile special : Bool) (cs : List Char) : List (List Char) :=
  let segments := allSegments isFile special cs
  if isFile then
    match segments.dropWhile List.isEmpty with
    | [] => [[]]
    | segments => segments
  else segments

/-- The path that stands after a host. -/
def pathAfterHost (isFile special : Bool) (cs : List Char) : UrlPath :=
  match cs with
  | [] => .segments (if special then [[]] else [])
  | c :: rest =>
    if isSlash special c then .segments (readSegments isFile special rest)
    else if endsPath c then .segments (if special then [[]] else [])
    else .segments (readSegments isFile special cs)

/-! ## Whole URLs -/

/-- The text after the credentials in front of a host, and whether there are any: a lone colon is
none. A lone mark before the end of the host's place is a fault. -/
def skipCredentials (special : Bool) (cs : List Char) : Option (List Char × Bool) :=
  let authority := cs.takeWhile fun c => !(isSlash special c || endsPath c)
  let rest := cs.drop authority.length
  match Text.splitOn '@' authority with
  | [_] => some (cs, false)
  | pieces =>
    let host := pieces.getLast?.getD []
    let given := pieces.dropLast
    if given = [[]] ∧ host.isEmpty ∧ !rest.isEmpty then none
    else some (host ++ rest, given != [[]] && given != [[':']])

/-- The host in front of the text; inside brackets a colon does not end it. -/
def readHost (special : Bool) : (bracket : Bool) → List Char → List Char × List Char
  | _, [] => ([], [])
  | bracket, c :: cs =>
    if isSlash special c || endsPath c || (c = ':' && !bracket) then ([], c :: cs)
    else
      let inside := if c = '[' then true else if c = ']' then false else bracket
      let (host, rest) := readHost special inside cs
      (c :: host, rest)

/-- The text after the service number of a host, which has at most sixteen bits. -/
def skipService : (number : Nat) → List Char → Option (List Char)
  | _, [] => some []
  | number, c :: cs =>
    if c.isDigit then
      let number := 10 * number + hexValue c
      if number < 65536 then skipService number cs else none
    else if c = '/' || c = '\\' || endsPath c then some (c :: cs)
    else none

/-- The URL whose scheme is followed by two slashes and the text. -/
def afterSlashes (scheme : List Char) (special : Bool) (cs : List Char) : Option Url := do
  let (cs, credentials) ← skipCredentials special cs
  let (host, rest) := readHost special false cs
  let valid := if special then (specialHost? host).isSome else isOpaqueHost host
  if !valid then none
  if host.isEmpty && (credentials || rest.head? = some ':') then none
  let rest ← match rest with
    | ':' :: rest => skipService 0 rest
    | rest => some rest
  return { scheme, hasHost := !host.isEmpty, path := pathAfterHost false special rest }

/-- The URL of a file: the host is optional and may be the local machine. -/
def fileUrl (cs : List Char) : Option Url :=
  let scheme := "file".toList
  match cs with
  | a :: b :: rest =>
    if isSlash true a && isSlash true b then
      let host := rest.takeWhile fun c => !(isSlash true c || endsPath c)
      let after := rest.drop host.length
      if isDriveLetter host then
        some { scheme, hasHost := false, path := .segments (readSegments true true rest) }
      else if host.isEmpty then
        some { scheme, hasHost := false, path := pathAfterHost true true after }
      else
        (specialHost? host).map fun domain =>
          let onDrive := after.head?.any (isSlash true)
            && (allSegments true true (after.drop 1)).head?.any isDriveLetter
          { scheme
            hasHost := domain != "localhost".toList && !onDrive
            path := pathAfterHost true true after }
    else if isSlash true a then
      some { scheme, hasHost := false, path := .segments (readSegments true true (b :: rest)) }
    else some { scheme, hasHost := false, path := .segments (readSegments true true cs) }
  | [a] =>
    if isSlash true a then some { scheme, hasHost := false, path := .segments [[]] }
    else some { scheme, hasHost := false, path := .segments (readSegments true true [a]) }
  | [] => some { scheme, hasHost := false, path := .segments [[]] }

/-- A character of a scheme after its first. -/
def isSchemeChar (c : Char) : Bool := c.isAlphanum || c = '+' || c = '-' || c = '.'

/-- The schemes whose URLs have a host and a path of segments. -/
def specialSchemes : List (List Char) :=
  ["http".toList, "https".toList, "ws".toList, "wss".toList, "ftp".toList]

/-- The text without the blanks around it and the line breaks and tabs in it. -/
def clean (cs : List Char) : List Char :=
  let isEdge (c : Char) : Bool := c.toNat ≤ 32
  let core := ((cs.dropWhile isEdge).reverse.dropWhile isEdge).reverse
  core.filter fun c => c != '\t' && c != '\n' && c != '\r'

/-- The URL that a text spells, if it spells an absolute one. -/
def parse? (text : List Char) : Option Url := do
  let cs := clean text
  let scheme := cs.takeWhile isSchemeChar
  let rest ← match cs.drop scheme.length with
    | ':' :: rest => some rest
    | _ => none
  if !scheme.head?.any Char.isAlpha then none
  let scheme := scheme.map Char.toLower
  if scheme = "file".toList then fileUrl rest
  else if specialSchemes.contains scheme then
    afterSlashes scheme true (rest.dropWhile (isSlash true))
  else
    match rest with
    | '/' :: '/' :: rest => afterSlashes scheme false rest
    | '/' :: rest =>
      some { scheme, hasHost := false, path := .segments (readSegments false false rest) }
    | _ => some { scheme, hasHost := false, path := .opaquePath }

/-- The name of the local file that a URL names: its segments with the escapes resolved. -/
def toFilePath (url : Url) : Option (List Char) :=
  match url.path with
  | .segments segments =>
    if url.hasHost || segments.isEmpty then none
    else
      let bytes := segments.flatMap fun s => utf8Bytes '/' ++ percentDecode s
      let path := Text.decodeLossy bytes
      match path.reverse with
      | mark :: drive :: _ :: _ =>
        if drive.isAlpha && (mark = ':' || mark = '|') then some (path ++ ['/']) else some path
      | _ => some path
  | .opaquePath => none

/-- The last segment of the path. -/
def lastSegment (url : Url) : Option (List Char) :=
  match url.path with
  | .segments segments => segments.getLast?
  | .opaquePath => none

end Url
end Folio
