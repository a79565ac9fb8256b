import PocketScheme.IpAddress
import PocketScheme.Text.LowerCase

/-!
Addresses of repositories. An address with `://` in it is a URL, `host:path` is a path on another
host, and everything else is a path on this disk.

* `Url`, `Url.parse`: URLs, as far as repositories need them;
* `Address`, `Address.parse`: the three kinds of addresses.
-/

namespace PocketScheme

/-- A URL: its scheme in small letters, empty if it has none, and what follows the host. -/
structure Url where
  scheme : Text
  path : Text
  query : Text
  fragment : Text

namespace Url

/-- What is wrong with a URL. -/
inductive Cause where
  | controlCharacter
  | noScheme
  | colonInSegment
  | unclosedBracket
  | badPort (text : Text)
  | badUser
  | badEscape (text : Text)
  | badHostCharacter (text : Text)
  /-- Brackets around something else than an address of eight groups. -/
  | badLiteral
  | badAddress (fault : IpAddress.Fault)
  deriving DecidableEq, Repr

/-- The text of a cause. -/
def Cause.message : Cause → String
  | controlCharacter => "net/url: invalid control character in URL"
  | noScheme => "missing protocol scheme"
  | colonInSegment => "first path segment in URL cannot contain colon"
  | unclosedBracket => "missing ']' in host"
  | badPort text => "invalid port " ++ Text.quote text ++ " after host"
  | badUser => "net/url: invalid userinfo"
  | badEscape text => "invalid URL escape " ++ Text.quote text
  | badHostCharacter text => "invalid character " ++ Text.quote text ++ " in host name"
  | badLiteral => "invalid IP-literal"
  | badAddress fault => "invalid host: " ++ fault.message

/-- A text that is no URL, and why. -/
structure Fault where
  text : Text
  cause : Cause
  deriving DecidableEq, Repr

/-- The text of a fault. -/
def Fault.message (f : Fault) : String :=
  "parse " ++ Text.quote f.text ++ ": " ++ f.cause.message

/-! ### Escapes -/

/-- The parts of a URL differ in what may be escaped and what must be. -/
inductive Section where
  | host
  | zone
  | other
  deriving DecidableEq, Repr

/-- The ASCII characters that may stand in a host. -/
def isHostCharacter (c : Char) : Bool :=
  c.isAlphanum || "-_.~!$&\x27()*+,;=:[]<>\"".toList.contains c

/-- A byte may be spelled by an escape. In a host only bytes above ASCII may, and the percent
sign. -/
def mayEscape (place : Section) (n : Nat) : Bool :=
  match place with
  | .host => 0x80 ≤ n || n == 0x25
  | .zone => n == 0x25 || n == 0x20 || (n < 0x80 && isHostCharacter (Char.ofNat n))
  | .other => true

/-- A byte may stand by itself. -/
def mayStand (place : Section) (b : UInt8) : Bool :=
  place == .other || 0x80 ≤ b.toNat || isHostCharacter (Char.ofNat b.toNat)

/-- The byte that two hexadecimal digits spell. -/
def hexByte? (a b : UInt8) : Option Nat :=
  Text.hexValue? [Char.ofNat a.toNat, Char.ofNat b.toNat]

/-- The bytes that a part of a URL stands for. -/
def unescape (place : Section) : Text.Bytes → Except Cause Text.Bytes
  | [] => .ok []
  | b :: rest =>
    if b == 0x25 then
      match rest with
      | x :: y :: rest' =>
        match hexByte? x y with
        | some n =>
          if mayEscape place n then (n.toUInt8 :: ·) <$> unescape place rest'
          else .error (.badEscape (Text.ofBytes [b, x, y]))
        | none => .error (.badEscape (Text.ofBytes [b, x, y]))
      | _ => .error (.badEscape (Text.ofBytes (b :: rest)))
    else if mayStand place b then (b :: ·) <$> unescape place rest
    else .error (.badHostCharacter (Text.ofBytes [b]))

/-- The glyphs of a URL. -/
abbrev Glyphs := List Glyph

/-- The text that a part of a URL stands for. -/
def unescapeText (place : Section) (gs : Glyphs) : Except Cause Text :=
  Text.ofBytes <$> unescape place (Text.ofList gs).bytes

/-- The glyphs of a string. -/
def glyphs (s : String) : Glyphs :=
  (Text.ofString s).toList

/-! ### Hosts -/

/-- The text in front of the last `c`, and from there on. -/
def splitLast (c : Char) (gs : Glyphs) : Option (Glyphs × Glyphs) :=
  let back := gs.reverse
  match back.dropWhile (· != .char c) with
  | _ :: front => some (front.reverse, .char c :: (back.takeWhile (· != .char c)).reverse)
  | [] => none

/-- What may follow a host: nothing, or a colon and digits. -/
def isPort : Glyphs → Bool
  | [] => true
  | g :: gs => g == .char ':' && gs.all fun d => d.satisfies Char.isDigit

/-- The text in front of a word, and from there on. -/
def splitAtWord (word : Glyphs) : Glyphs → Option (Glyphs × Glyphs)
  | [] => none
  | g :: gs =>
    if word.isPrefixOf (g :: gs) then some ([], g :: gs)
    else (splitAtWord word gs).map fun (front, rest) => (g :: front, rest)

/-- A port is well-formed. -/
def checkPort (gs : Glyphs) : Except Cause Unit :=
  if isPort gs then .ok () else .error (.badPort ⟨gs⟩)

/-- The text of a host in brackets. A zone may follow it, in which more may be escaped. -/
def bracketedText (gs : Glyphs) : Except Cause Text :=
  match splitAtWord (glyphs "%25") gs with
  | some (front, zone) => do
    let front ← unescapeText .host front
    let zone ← unescapeText .zone zone
    return front ++ zone
  | none => unescapeText .host gs

/-- A host in brackets, and what follows it, are well-formed. -/
def checkBracketed (gs : Glyphs) : Except Cause Unit :=
  match splitLast ']' gs with
  | none => .error .unclosedBracket
  | some (inner, rest) => do
    checkPort rest.tail
    let _ ← unescapeText .host rest.tail
    let host ← bracketedText inner.tail
    match IpAddress.check host with
    | .error fault => .error (.badAddress fault)
    | .ok .four => .error .badLiteral
    | .ok .sixteen => .ok ()

/-- A host, and what follows it, are well-formed. -/
def checkHost (gs : Glyphs) : Except Cause Unit :=
  match splitLast '[' gs with
  | some (front, _) => if front.isEmpty then checkBracketed gs else .error .badLiteral
  | none => do
    checkPort (((splitLast ':' gs).map Prod.snd).getD [])
    let _ ← unescapeText .host gs

/-- The characters of a user's name and password. -/
def isUserCharacter (c : Char) : Bool :=
  c.isAlphanum || "-._:~!$&\x27()*+,;=%@".toList.contains c

/-- What stands between `//` and the path is well-formed: a host, and in front of an `@` a user. -/
def checkAuthority (gs : Glyphs) : Except Cause Unit :=
  match splitLast '@' gs with
  | none => checkHost gs
  | some (user, host) => do
    checkHost host.tail
    if !user.all (fun g => g.satisfies isUserCharacter) then .error .badUser
    else
      let _ ← unescapeText .other (user.takeWhile (· != .char ':'))
      let _ ← unescapeText .other (user.dropWhile (· != .char ':'))

/-! ### Whole URLs -/

/-- The characters of a scheme. -/
def isSchemeCharacter (c : Char) : Bool :=
  c.isAlphanum || c == '+' || c == '-' || c == '.'

/-- The scheme in front of a colon, empty if there is none, and the rest. -/
def splitScheme (gs : Glyphs) : Except Cause (Glyphs × Glyphs) :=
  let isScheme (g : Glyph) : Bool := g.satisfies isSchemeCharacter
  let lead := gs.takeWhile isScheme
  match gs.dropWhile isScheme with
  | .char ':' :: rest =>
    match lead with
    | [] => .error .noScheme
    | g :: _ => .ok (if g.satisfies Char.isAlpha then (lead, rest) else ([], gs))
  | _ => .ok ([], gs)

/-- The text in front of the first `c`, and behind it. -/
def cut (c : Char) (gs : Glyphs) : Glyphs × Glyphs :=
  (gs.takeWhile (· != .char c), (gs.dropWhile (· != .char c)).tail)

/-- The path of a URL without its scheme, checked up to the path. -/
def pathOf (scheme rest : Glyphs) : Except Cause Text :=
  if rest.head? != some (.char '/') then
    if !scheme.isEmpty then .ok ""
    else if (rest.takeWhile (· != .char '/')).contains (.char ':') then .error .colonInSegment
    else unescapeText .other rest
  else if (glyphs "//").isPrefixOf rest &&
      !(scheme.isEmpty && (glyphs "///").isPrefixOf rest) then do
    checkAuthority ((rest.drop 2).takeWhile (· != .char '/'))
    unescapeText .other ((rest.drop 2).dropWhile (· != .char '/'))
  else unescapeText .other rest

/-- A URL without its fragment. -/
def parseMain (gs : Glyphs) : Except Cause Url := do
  if gs.any (fun g => g.satisfies fun c => c.toNat < 0x20 || c.toNat == 0x7f) then
    .error .controlCharacter
  else
    let (scheme, rest) ← splitScheme gs
    let (rest, query) := cut '?' rest
    let path ← pathOf scheme rest
    return ⟨Text.lower ⟨scheme⟩, path, ⟨query⟩, ""⟩

/-- The URL that a text spells. -/
def parse (text : Text) : Except Fault Url :=
  let (main, fragment) := cut '#' text.toList
  match parseMain main with
  | .error cause => .error ⟨⟨main⟩, cause⟩
  | .ok url =>
    match unescapeText .other fragment with
    | .error cause => .error ⟨text, cause⟩
    | .ok fragment => .ok { url with fragment := fragment }

/-- Everything behind the host. -/
def location (u : Url) : Text :=
  u.path ++ (if u.query.isEmpty then ("" : Text) else "?" ++ u.query) ++
    (if u.fragment.isEmpty then ("" : Text) else "#" ++ u.fragment)

end Url

/-- Where a repository is: at a path on this disk, or somewhere else by some scheme. -/
inductive Address where
  | path (path : Text)
  | remote (scheme : Text)
  deriving DecidableEq, Repr

namespace Address

/-- What is wrong with an address. -/
inductive Fault where
  | url (fault : Url.Fault)
  /-- A URL without a scheme. -/
  | relative (text : Text)
  deriving DecidableEq, Repr

/-- The text of a fault. -/
def Fault.message : Fault → Text
  | url fault => fault.message
  | relative text => "permanent client error: invalid endpoint: " ++ text

/-- The text has `://` behind its first characters, which hold no colon. -/
def isUrl (gs : List Glyph) : Bool :=
  gs.head? != some (.char ':') && (Url.glyphs "://").isPrefixOf (gs.dropWhile (· != .char ':'))

/-- A host, a colon and a path. -/
def isHostPath (gs : List Glyph) : Bool :=
  let isSpace (g : Glyph) : Bool := g.satisfies fun c => " \t\n\x0c\r".toList.contains c
  let isHost (g : Glyph) : Bool := g != .char ':' && !isSpace g
  let host := gs.takeWhile isHost
  match gs.dropWhile isHost with
  | .char ':' :: g :: rest => !host.isEmpty && g != .char '\\' && !rest.contains (.char '\n')
  | _ => false

/-- A path on another host, in front of which a user and an `@` may stand. -/
def isOnHost (gs : List Glyph) : Bool :=
  isHostPath gs ||
    (gs.head? != some (.char '@') && gs.contains (.char '@') && isHostPath (Url.cut '@' gs).2)

/-- The address that a text spells. -/
def parse (text : Text) : Except Fault Address :=
  if isUrl text.toList then
    match Url.parse text with
    | .error fault => .error (.url fault)
    | .ok url =>
      if url.scheme.isEmpty then .error (.relative text)
      else if url.scheme == "file" then .ok (.path url.location)
      else .ok (.remote url.scheme)
  else if isOnHost text.toList then .ok (.remote "ssh")
  else .ok (.path text)

end Address

end PocketScheme
