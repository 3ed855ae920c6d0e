import Classpath.Path
import Classpath.Text.Utf8

/-!
# URLs

Entries of a class path are URLs. Those of the scheme `file` without a host stand for paths:
a path is written segment by segment, with every byte that could be mistaken written as two
hexadecimal digits behind `%`, and read back by undoing that.

Texts are read the way browsers read them: dot segments are resolved, a missing path of a
hierarchical scheme is `/`, and what has to be escaped is.

## Main definitions

* `Url`, `Url.text`.
* `Url.ofPath`, `Url.localPath?`: URLs and paths.
* `Url.parse?`.
-/

namespace Classpath

/-- What follows the scheme and the authority of a URL. -/
inductive UrlPath where
  /-- A path of the scheme's own, without structure. -/
  | opaqueText (text : String)
  | segments (l : List String)
  deriving DecidableEq, Repr

/-- A URL; every part is in its escaped form. -/
structure Url where
  scheme : String
  /-- What names the host, if the URL has such a part. -/
  authority : Option String := none
  path : UrlPath
  query : Option String := none
  fragment : Option String := none
  deriving DecidableEq, Repr

namespace Url

/-! ### Escapes -/

/-- The hexadecimal digit of a number below 16. -/
def upperDigit (n : Nat) : Char := Char.ofNat (if n < 10 then 48 + n else 55 + n)

/-- A byte as an escape. -/
def escapeByte (b : UInt8) : List Char :=
  ['%', upperDigit (b.toNat / 16), upperDigit (b.toNat % 16)]

/-- A text in which control characters, characters beyond ASCII and the given ones are
escaped. -/
def escapeText (special : List Char) (s : String) : String :=
  String.ofList (s.toList.flatMap fun c =>
    if c.toNat < 32 || 127 ≤ c.toNat || special.contains c then
      (Text.Utf8.encode (String.singleton c)).flatMap escapeByte
    else [c])

/-- What is escaped in fragments. -/
def fragmentSpecials : List Char := [' ', '\x22', '<', '>', '\x60']

/-- What is escaped in paths. -/
def pathSpecials : List Char := fragmentSpecials ++ ['#', '?', '\x7b', '\x7d']

/-- What is escaped in queries. -/
def querySpecials : List Char := [' ', '\x22', '#', '<', '>', '\x27']

/-- What is escaped in a name that is to be one segment of a path. -/
def nameSpecials : List Char := pathSpecials ++ ['/', '%', '\\']

/-- The value of a hexadecimal digit. -/
def digitValue? (b : UInt8) : Option UInt8 :=
  if 48 ≤ b && b ≤ 57 then some (b - 48)
  else if 65 ≤ b && b ≤ 70 then some (b - 55)
  else if 97 ≤ b && b ≤ 102 then some (b - 87)
  else none

/-- Some bytes without escapes. A `%` that begins none stays. -/
def unescapeBytes : Bytes → Bytes
  | 37 :: a :: b :: rest =>
    match digitValue? a, digitValue? b with
    | some high, some low => (16 * high + low) :: unescapeBytes rest
    | _, _ => 37 :: unescapeBytes (a :: b :: rest)
  | b :: rest => b :: unescapeBytes rest
  | [] => []

/-! ### Text -/

/-- The path of a URL as its text shows it. -/
def pathText : UrlPath → String
  | .opaqueText text => text
  | .segments l => String.join (l.map ("/" ++ ·))

/-- The text of a URL. -/
def text (u : Url) : String :=
  let behind (mark : String) (part : Option String) : String :=
    match part with
    | some s => mark ++ s
    | none => ""
  u.scheme ++ ":" ++ behind "//" u.authority ++ pathText u.path ++ behind "?" u.query ++
    behind "#" u.fragment

/-! ### Files -/

/-- The URL of the file or directory at an absolute path. -/
def ofPath (path : String) : Url where
  scheme := "file"
  authority := some ""
  path :=
    match Path.names path with
    | [] => .segments [""]
    | names => .segments (names.map (escapeText nameSpecials))

/-- Whether some bytes end like the name of a drive: a letter and a colon or a bar. -/
def endsWithDrive (bytes : Bytes) : Bool :=
  match bytes.reverse with
  | mark :: letter :: _ :: _ =>
    (mark = 58 || mark = 124) && ((65 ≤ letter && letter ≤ 90) || (97 ≤ letter && letter ≤ 122))
  | _ => false

/-- The path that some segments of a file URL stand for. The name of a drive ends with a
slash. -/
def segmentsPath (l : List String) : String :=
  let bytes := l.flatMap fun s => 47 :: unescapeBytes (Text.Utf8.encode s)
  Text.Utf8.decodeLossy (if endsWithDrive bytes then bytes ++ [47] else bytes)

/-- The path on this machine that a URL stands for, if it does for any: one of the scheme
`file` without a host. Query and fragment mean nothing. -/
def localPath? (u : Url) : Option String :=
  if u.scheme = "file" && u.authority.getD "" = "" then
    match u.path with
    | .segments l => some (segmentsPath l)
    | .opaqueText _ => none
  else none

/-! ### Reading -/

/-- A text up to the first of some marks, and the rest from the mark on. -/
def untilAny (marks : List Char) (cs : List Char) : List Char × List Char :=
  (cs.takeWhile fun c => !marks.contains c, cs.dropWhile fun c => !marks.contains c)

/-- The schemes whose URLs have an authority and a path of segments, with the ports that are
left out. -/
def hierarchical : List (String × Option String) := [
  ("http", some "80"), ("https", some "443"), ("ws", some "80"), ("wss", some "443"),
  ("ftp", some "21"), ("file", none)]

/-- A segment with escaped dots written as dots. -/
def plainDots (segment : String) : String :=
  Text.join "." ((Text.join "." (segment.splitOn "%2e")).splitOn "%2E")

/-- Whether a segment is the name of a drive: a letter and a colon or a bar. -/
def isDrive (segment : String) : Bool :=
  match segment.toList with
  | [letter, mark] => letter.isAlpha && (mark == ':' || mark == '|')
  | _ => false

/-- The segments above the last one; the drive of a file stays. -/
def parent (isFile : Bool) (l : List String) : List String :=
  match l with
  | [drive] => if isFile && isDrive drive then [drive] else []
  | l => l.dropLast

/-- Some segments behind others, with dot segments resolved. -/
def resolveDots (isFile : Bool) : (done : List String) → List String → List String
  | done, [] => done
  | done, s :: rest =>
    let dots := plainDots s
    let isLast := rest.isEmpty
    if dots = ".." then
      let up := parent isFile done
      resolveDots isFile (if isLast then up ++ [""] else up) rest
    else if dots = "." then resolveDots isFile (if isLast then done ++ [""] else done) rest
    else
      let s := if isFile && done.isEmpty && isDrive s then String.ofList (s.toList.take 1 ++ [':'])
        else s
      resolveDots isFile (done ++ [s]) rest

/-- The path of segments that a text spells, which may begin with a slash. -/
def readSegments (isFile isHierarchical : Bool) (cs : List Char) : UrlPath :=
  let slashed := if isHierarchical then cs.map fun c => if c = '\\' then '/' else c else cs
  let body := match slashed with
    | '/' :: rest => rest
    | rest => rest
  let segments := (Text.pieces '/' body).map fun s => escapeText pathSpecials (String.ofList s)
  .segments (resolveDots isFile [] segments)

/-- The authority as it is kept: the host in lower case, and no port that the scheme has
anyway. -/
def readAuthority (port : Option String) (cs : List Char) : String :=
  let reversed := cs.reverse
  let (user, host) :=
    if cs.contains '@' then
      ((reversed.dropWhile (· != '@')).reverse, (reversed.takeWhile (· != '@')).reverse)
    else ([], cs)
  let host := String.ofList (host.map Char.toLower)
  let usual := match port with
    | some p => ":" ++ p
    | none => ":"
  let host :=
    if Text.endsWith host usual then String.ofList (host.toList.take (host.length - usual.length))
    else if Text.endsWith host ":" then Text.trimEnd ':' host
    else host
  escapeText [] (String.ofList user ++ host)

/-- The authority and the path of a file URL behind its colon. Two slashes announce a host;
the name of a drive is none, and neither is `localhost`. -/
def readFile (cs : List Char) : String × UrlPath :=
  let isSlash (c : Char) : Bool := c == '/' || c == '\\'
  match cs with
  | a :: b :: rest =>
    if isSlash a && isSlash b then
      let (host, path) := untilAny ['/', '\\'] rest
      if isDrive (String.ofList host) then ("", readSegments true true rest)
      else
        let name := String.ofList (host.map Char.toLower)
        (if name = "localhost" then "" else escapeText [] name, readSegments true true path)
    else ("", readSegments true true cs)
  | _ => ("", readSegments true true cs)

/-- What follows the scheme of a URL of some other scheme. -/
def readOther (cs : List Char) : Option String × UrlPath :=
  match cs with
  | '/' :: '/' :: rest =>
    let (host, path) := untilAny ['/'] rest
    let path := if path.isEmpty then .segments [] else readSegments false false path
    (some (escapeText [] (String.ofList host)), path)
  | '/' :: _ => (none, readSegments false false cs)
  | _ => (none, .opaqueText (escapeText [] (String.ofList cs)))

/-- The URL that a text spells. A text without a scheme spells none. -/
def parse? (source : String) : Option Url :=
  let isOuter (c : Char) : Bool := c.toNat ≤ 32
  let trimmed := ((source.toList.dropWhile isOuter).reverse.dropWhile isOuter).reverse
  let cs := trimmed.filter fun c => c != '\t' && c != '\n' && c != '\r'
  let isSchemeCharacter (c : Char) : Bool :=
    c.isAlphanum || c == '+' || c == '-' || c == '.'
  let (name, rest) := (cs.takeWhile isSchemeCharacter, cs.dropWhile isSchemeCharacter)
  match name, rest with
  | first :: _, ':' :: rest =>
    if !first.isAlpha then none
    else
      let scheme := String.ofList (name.map Char.toLower)
      let (body, rest) := untilAny ['?', '#'] rest
      let (query, rest) := match rest with
        | '?' :: rest =>
          let (query, rest) := untilAny ['#'] rest
          (some (escapeText querySpecials (String.ofList query)), rest)
        | rest => (none, rest)
      let fragment := match rest with
        | '#' :: rest => some (escapeText fragmentSpecials (String.ofList rest))
        | _ => none
      match hierarchical.lookup scheme with
      | some port =>
        if scheme = "file" then
          let (authority, path) := readFile body
          some ⟨scheme, some authority, path, query, fragment⟩
        else
          let behind := body.dropWhile fun c => c == '/' || c == '\\'
          let (host, path) := untilAny ['/', '\\'] behind
          some ⟨scheme, some (readAuthority port host), readSegments false true path,
            query, fragment⟩
      | none =>
        let (authority, path) := readOther body
        some ⟨scheme, authority, path, query, fragment⟩
  | _, _ => none

end Url

end Classpath
