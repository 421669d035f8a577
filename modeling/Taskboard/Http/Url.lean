/-
URLs, as far as a server needs them: whether a text is one, its path, and its query. The path is
taken apart at slashes, its dot segments are resolved, and the characters that may not stand in a
path are percent-encoded; escapes that are there already stay.
-/
import Taskboard.Http.Host

namespace Taskboard.Http

/-- The path and the query of a URL. -/
structure Url where
  path : String
  query? : Option String

namespace Url

/-! ## Scheme -/

/-- The text without controls and spaces at its ends and without tabs and line breaks. -/
def clean (cs : List Char) : List Char :=
  let isEdge (c : Char) : Bool := c.toNat ≤ 0x20
  let trimmed := ((cs.dropWhile isEdge).reverse.dropWhile isEdge).reverse
  trimmed.filter fun c => !(c = '\t' || c = '\n' || c = '\r')

/-- The scheme in lower case and what follows its colon. -/
def scheme? (cs : List Char) : Option (String × List Char) :=
  let isInside (c : Char) : Bool := c.isAlphanum || c = '+' || c = '-' || c = '.'
  let name := cs.takeWhile isInside
  match name, cs.dropWhile isInside with
  | first :: _, ':' :: rest =>
    if first.isAlpha then some (String.ofList (name.map Char.toLower), rest) else none
  | _, _ => none

/-- The schemes whose URLs always have an authority and take a backslash for a slash. -/
def isWellKnown (scheme : String) : Bool :=
  ["http", "https", "ws", "wss", "ftp", "file"].contains scheme

/-! ## Authority -/

/-- Whether digits are a decimal number of at most 16 bits; no digits count as one. -/
def isHostNumber (digits : List Char) : Bool :=
  (Host.inBase? 10 digits).any (· < 65536)

/-- A host and what follows its colon; colons between brackets belong to the host. -/
def splitHost (inBrackets : Bool) : List Char → List Char × Option (List Char)
  | [] => ([], none)
  | c :: rest =>
    if c = ':' ∧ !inBrackets then ([], some rest)
    else
      let inside := if c = '[' then true else if c = ']' then false else inBrackets
      let (host, number?) := splitHost inside rest
      (c :: host, number?)

/-- The text in front of the last `@`, if there is one, and the text behind it. -/
def splitUser (cs : List Char) : Option (List Char) × List Char :=
  let place := (cs.reverse.takeWhile (· ≠ '@')).reverse
  if place.length < cs.length then (some (cs.take (cs.length - place.length - 1)), place)
  else (none, place)

/-- The path behind an authority: user, host and number. A text without a host is an authority only of
a scheme that is not well known, and without a user; a colon alone is no user. Behind a number the
path may begin with a backslash. -/
def behindAuthority? (wellKnown : Bool) (cs : List Char) : Option (List Char) :=
  let isInside (c : Char) : Bool := !(c = '/' || (wellKnown && c = '\\'))
  let (user?, place) := splitUser (cs.takeWhile isInside)
  let (host, number?) := splitHost false place
  let digits := (number?.getD []).takeWhile Char.isDigit
  let path := (number?.getD []).dropWhile Char.isDigit ++ cs.dropWhile isInside
  let isWhole :=
    if host.isEmpty then !wellKnown && user?.all (· = [':']) && number?.isNone
    else Host.isValid wellKnown host && isHostNumber digits
  if isWhole && path.head?.all (fun c => c = '/' || c = '\\') then some path else none

/-- The path behind the host of a file, which may be empty. -/
def behindFileHost? (cs : List Char) : Option (List Char) :=
  let isInside (c : Char) : Bool := !(c = '/' || c = '\\')
  let host := cs.takeWhile isInside
  if host.isEmpty || Host.isValid true host then some (cs.dropWhile isInside) else none

/-! ## Path -/

/-- Whether a character is percent-encoded wherever it stands: controls and all beyond ASCII. -/
def isEncodedAnywhere (c : Char) : Bool :=
  c.toNat < 0x20 || 0x7f ≤ c.toNat

/-- Whether a character is percent-encoded in a segment of a path. -/
def isEncodedInSegment (c : Char) : Bool :=
  isEncodedAnywhere c || [' ', '"', '#', '<', '>', '?', '`', '\x7b', '\x7d'].contains c

/-- The escape of a byte. -/
def escapeByte (b : UInt8) : List Char :=
  '%' :: (Text.hexOfByte b).map Char.toUpper

/-- A text with some of its characters written as the escapes of their bytes. -/
def encode (isEncoded : Char → Bool) (cs : List Char) : List Char :=
  cs.flatMap fun c => if isEncoded c then (Text.utf8OfChar c).flatMap escapeByte else [c]

/-- The dots that a segment consists of, written out or as escapes; none if it holds anything else. -/
def dots? : List Char → Option Nat
  | [] => some 0
  | '.' :: rest => (dots? rest).map (· + 1)
  | '%' :: '2' :: e :: rest => if e = 'e' ∨ e = 'E' then (dots? rest).map (· + 1) else none
  | _ => none

/-- Whether a segment names a drive: a letter and a colon or bar, alone or in front of a backslash. -/
def isDrive : List Char → Bool
  | [letter, mark] | letter :: mark :: '\\' :: _ => letter.isAlpha && (mark = ':' || mark = '|')
  | _ => false

/-- Adds segments to those already there, in reverse: one dot adds nothing, two dots take the last
away unless it names a drive, and at the end of a path both leave an empty segment. -/
def resolveDots (above : List (List Char)) : List (List Char) → List (List Char)
  | [] => above.reverse
  | segment :: rest =>
    let step := match dots? segment with
      | some 1 => above
      | some 2 => if above.head?.any isDrive then above else above.drop 1
      | _ => encode isEncodedInSegment segment :: above
    let isDots := (dots? segment).any fun n => n = 1 || n = 2
    if rest.isEmpty ∧ isDots then ([] :: step).reverse else resolveDots step rest

/-- The segments of a text in front of query and fragment, its dots resolved; a slash in front of the
first one does not count. -/
def segmentsOf (wellKnown : Bool) (cs : List Char) : List (List Char) :=
  let cs := if wellKnown then cs.map fun c => if c = '\\' then '/' else c else cs
  match cs with
  | '/' :: rest => resolveDots [] (rest.splitOn '/')
  | cs => resolveDots [] (cs.splitOn '/')

/-- The segments of a path, each behind a slash. -/
def join (segments : List (List Char)) : List Char :=
  segments.flatMap fun segment => '/' :: segment

/-- The path that a text stands for; one of a well-known scheme is never empty. -/
def pathOf (wellKnown : Bool) (cs : List Char) : List Char :=
  if cs.isEmpty && !wellKnown then [] else join (segmentsOf wellKnown cs)

/-- The path of a file: as any other, but without empty segments in front. -/
def filePathOf (cs : List Char) : List Char :=
  match (segmentsOf true cs).dropWhile List.isEmpty with
  | [] => ['/']
  | segments => join segments

/-! ## The whole -/

/-- What stands in front of a query or fragment, the query, and no more. -/
def splitQuery (cs : List Char) : List Char × Option (List Char) :=
  let body := cs.takeWhile (· ≠ '#')
  match body.dropWhile (· ≠ '?') with
  | [] => (body, none)
  | _ :: query => (body.takeWhile (· ≠ '?'), some query)

/-- The path of a text between scheme and query. A well-known scheme has an authority, whatever
slashes stand in front of it; a file has a host, and any other scheme an authority, behind two
slashes; and a text that does not begin with a slash is a path as it is. -/
def path? (scheme : String) (body : List Char) : Option (List Char) :=
  let isSlash (c : Char) : Bool := c = '/' || c = '\\'
  if scheme = "file" then
    let path? := match body with
      | a :: b :: rest => if isSlash a && isSlash b then behindFileHost? rest else some body
      | _ => some body
    path?.map filePathOf
  else if isWellKnown scheme then
    (behindAuthority? true (body.dropWhile isSlash)).map (pathOf true)
  else match body with
    | '/' :: '/' :: rest => (behindAuthority? false rest).map (pathOf false)
    | '/' :: _ => some (pathOf false body)
    | _ => some (encode isEncodedAnywhere body)

/-- Reads a text as a URL; none when it is not one. A text without a scheme is none. -/
def parse? (s : String) : Option Url := do
  let (scheme, rest) ← scheme? (clean s.toList)
  let (body, query?) := splitQuery rest
  let path ← path? scheme body
  return ⟨String.ofList path, query?.map String.ofList⟩

/-- The path of a text: that of the URL it is, or else the text itself behind a slash. -/
def pathOfText (s : String) : String :=
  match parse? s with
  | some url => url.path
  | none => if s.toList.head? = some '/' then s else "/" ++ s

end Url

end Taskboard.Http
