import Folio.Markdown.Grammar.Delimiter
import Folio.Markdown.Grammar.LinkPart

/-!
# Links without brackets

A web or mail address is a link without any mark around it. In angle brackets an address of any
scheme is one. Punctuation at the end of a bare address belongs to the text around it, and so does a
closing parenthesis without its partner.
-/

namespace Folio.Markdown
open Unicode (isBlank isMark)

/-! ## Between angle brackets -/

/-- The address with a scheme that stands before the closing bracket, and what follows the bracket.
-/
def schemeAddress? (cs : List Char) : Option (List Char × List Char) :=
  let scheme := cs.takeWhile fun c => c.isAlphanum || c ∈ ['+', '.', '-']
  match cs.drop scheme.length with
  | ':' :: rest =>
    let path := rest.takeWhile fun c => 32 < c.toNat && c ∉ ['<', '>']
    if scheme.head?.any Char.isAlpha ∧ 2 ≤ scheme.length ∧ scheme.length ≤ 32 then
      match rest.drop path.length with
      | '>' :: after => some (scheme ++ ':' :: path, after)
      | _ => none
    else none
  | _ => none

/-- The text is a part of a host name in a mail address. -/
def isHostPart (cs : List Char) : Bool :=
  1 ≤ cs.length && cs.length ≤ 63 && cs.all (fun c => c.isAlphanum || c = '-')
    && cs.head? != some '-' && cs.getLast? != some '-'

/-- The mail address that stands before the closing bracket, and what follows the bracket. -/
def mailAddress? (cs : List Char) : Option (List Char × List Char) :=
  let user := cs.takeWhile fun c => c.isAlphanum || c ∈ ".!#$%&'*+/=?^_`\x7b|\x7d~-".toList
  match cs.drop user.length with
  | '@' :: rest =>
    let host := rest.takeWhile fun c => c.isAlphanum || c = '-' || c = '.'
    match rest.drop host.length with
    | '>' :: after =>
      if !user.isEmpty ∧ (Text.splitOn '.' host).all isHostPart then
        some (user ++ '@' :: host, after)
      else none
    | _ => none
  | _ => none

/-! ## The end of a bare address -/

/-- The entity reference that a reversed address begins with is taken off, or just its semicolon. -/
def dropReference (reversed : List Char) : List Char :=
  let name := reversed.takeWhile Char.isAlpha
  match name, reversed.drop name.length with
  | _ :: _, '&' :: rest => rest
  | _, _ => reversed

/-- A reversed address without what belongs to the text around it. -/
def trimReversed (reversed : List Char) : List Char :=
  match reversed with
  | [] => []
  | c :: rest =>
    if c ∈ ['?', '!', '.', ',', ':', '*', '_', '~', '\'', '"'] then trimReversed rest
    else if c = ';' then trimReversed (dropReference rest)
    else if c = ')' ∧ (c :: rest).count '(' < (c :: rest).count ')' then trimReversed rest
    else c :: rest
  termination_by reversed.length
  decreasing_by
    · simp
    · simp only [dropReference, List.length_cons]
      split
      · rename_i h
        have := congrArg List.length h
        simp at this
        omega
      · omega
    · simp

/-- An address without what belongs to the text around it. -/
def trimAddress (cs : List Char) : List Char :=
  (trimReversed (cs.takeWhile (· != '<')).reverse).reverse

/-! ## Web addresses -/

/-- A text may go on a host name: the labels before it have `underscores` in the last one and
`earlier` in the one before that, and `dots` end them. A host name has no underscore in its last two
labels; unless it may be `short`, it has a dot. -/
def isHost (short : Bool) (dots earlier underscores : Nat) : List Char → Bool
  | [] =>
    !(decide (0 < earlier + underscores) && decide (dots ≤ 10)) && (short || decide (0 < dots))
  | c :: rest =>
    if c = '\\' ∧ !rest.isEmpty then isHost short dots earlier underscores rest
    else if c = '_' then isHost short dots earlier (underscores + 1) rest
    else if c = '.' then isHost short (dots + 1) underscores 0 rest
    else if (isBlank c || isMark c) && c != '-' then
      decide (earlier + underscores = 0) && (short || decide (0 < dots))
    else isHost short dots earlier underscores rest

/-- The characters of a text up to its first space, tab or line end. -/
def unbroken (cs : List Char) : List Char := cs.takeWhile (!Char.isWhitespace ·)

/-- The schemes that make an address a link. -/
def webSchemes : List (List Char) := ["http".toList, "https".toList, "ftp".toList]

/-- At a colon: the scheme before it and the rest of the address from it on. -/
def webAddress? (before cs : List Char) : Option (List Char × List Char) :=
  match cs with
  | ':' :: '/' :: '/' :: host =>
    let scheme := (before.takeWhile Char.isAlpha).reverse
    if !host.isEmpty && webSchemes.contains scheme && isHost true 0 0 0 host then
      some (scheme, trimAddress (unbroken cs))
    else none
  | _ => none

/-- The address that begins with the name of a web host. -/
def hostAddress? (before cs : List Char) : Option (List Char) :=
  let free := before.head?.all fun c => c.isWhitespace || c ∈ ['*', '_', '~', '(', '[']
  if free ∧ "www.".toList.isPrefixOf cs ∧ isHost false 0 0 0 cs then some (trimAddress (unbroken cs))
  else none

/-! ## Mail addresses -/

/-- A mail address in a text. -/
structure MailAddress where
  before : List Char
  destination : List Char
  address : List Char
  after : List Char
  deriving Repr

/-- The part of a mail address that stands before its at sign, read backwards, the protocol among
it, and whether a protocol was given that allows a path. -/
def mailUser (named path : Bool) : List Char → List Char × Bool × Bool
  | [] => ([], named, path)
  | c :: rest =>
    if c.isAlphanum || c ∈ ['.', '+', '-', '_'] then
      let (user, found) := mailUser named path rest
      (c :: user, found)
    else if c = ':' then
      let name := rest.takeWhile Char.isAlpha
      if name = "mailto".toList.reverse then
        let (user, found) := mailUser true path rest
        (c :: user, found)
      else if name = "xmpp".toList.reverse then
        let (user, found) := mailUser true true rest
        (c :: user, found)
      else ([], named, path)
    else ([], named, path)

/-- The host of a mail address and the dots in it; nothing if a second at sign follows. -/
def mailHost? (path : Bool) : List Char → Option (List Char × Nat)
  | [] => some ([], 0)
  | c :: rest =>
    if c = '@' then none
    else if c = '.' ∧ rest.head?.any Char.isAlphanum then
      (mailHost? path rest).map fun (host, dots) => (c :: host, dots + 1)
    else if c.isAlphanum || (c = '/' && path) || c = '-' || c = '_' then
      (mailHost? path rest).map fun (host, dots) => (c :: host, dots)
    else some ([], 0)

/-- The mail address around an at sign. -/
def mailAt? (before after : List Char) : Option MailAddress := do
  let (user, named, path) := mailUser false false before
  let (host, dots) ← mailHost? path after
  let last ← host.getLast?
  guard (!user.isEmpty && decide (0 < dots) && (last.isAlpha || last = '.'))
  let address := user.reverse ++ trimAddress ('@' :: after.take host.length)
  return {
    before := (before.drop user.length).reverse
    destination := if named then address else "mailto:".toList ++ address
    address
    after := after.drop (address.length - user.length - 1) }

/-- The first mail address in a text that stands in no open bracket; `before` has been read. -/
def findMail (before : List Char) (depth : Int) : List Char → Option MailAddress
  | [] => none
  | c :: rest =>
    let depth := if c = '[' then depth + 1 else if c = ']' then depth - 1 else depth
    let found := if depth ≤ 0 ∧ c = '@' then mailAt? before rest else none
    match found with
    | some address => some address
    | none => findMail (c :: before) depth rest

end Folio.Markdown
