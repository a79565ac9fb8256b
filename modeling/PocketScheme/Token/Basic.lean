import PocketScheme.Number.Reader
import PocketScheme.Number.Printer

/-!
Tokens: parentheses, strings, numbers and identifiers, each with the place of its first character.
-/

namespace PocketScheme

/-- A place in a text: line and column, both from 1. -/
structure Position where
  line : Nat
  column : Nat
  deriving DecidableEq, Repr

namespace Position

/-- The place of the first character. -/
def start : Position := ⟨1, 1⟩

/-- The place after a character: a newline starts the next line. -/
def next (p : Position) (c : Char) : Position :=
  if c == '\n' then ⟨p.line + 1, 1⟩ else ⟨p.line, p.column + 1⟩

/-- The place after several characters. -/
def after (p : Position) (cs : List Char) : Position :=
  cs.foldl next p

/-- A place as text. -/
def render (p : Position) : String :=
  String.ofList (Number.natChars p.line ++ ':' :: Number.natChars p.column)

end Position

/-- What a token says. The text of a string goes without its quotes. -/
inductive Lexeme where
  | openParen
  | closeParen
  | identifier (text : String)
  | string (text : String)
  | number (text : String) (value : Number)

namespace Lexeme

/-- The kinds of tokens. -/
inductive Kind where
  | openParen
  | closeParen
  | identifier
  | string
  | number
  deriving DecidableEq, Repr

/-- The name of a kind. -/
def Kind.name : Kind → String
  | openParen => "open_paren"
  | closeParen => "close_paren"
  | identifier => "identifier"
  | string => "string"
  | number => "number"

/-- The kinds in order of their codes, from 0. -/
def Kind.all : List Kind := [.openParen, .closeParen, .identifier, .string, .number]

/-- The name that belongs to a code. -/
def Kind.nameOfCode (code : Int) : String :=
  let unknown := "token_" ++ Number.intText code
  match code with
  | .ofNat n => (Kind.all[n]?.map Kind.name).getD unknown
  | .negSucc _ => unknown

/-- The kind of a lexeme. -/
def kind : Lexeme → Kind
  | openParen => .openParen
  | closeParen => .closeParen
  | identifier _ => .identifier
  | string _ => .string
  | number _ _ => .number

/-- The text of a lexeme, a string without its quotes. -/
def text : Lexeme → String
  | openParen => "("
  | closeParen => ")"
  | identifier text => text
  | string text => text
  | number text _ => text

/-- How a lexeme is shown: a string in quotes and a number by its value. -/
def render : Lexeme → String
  | openParen => "("
  | closeParen => ")"
  | identifier text => text
  | string text => "\"" ++ text ++ "\""
  | number _ value => value.render

/-- The value of a number. -/
def number? : Lexeme → Option Number
  | number _ value => some value
  | _ => none

end Lexeme

/-- A lexeme and the place of its first character. -/
structure Token where
  lexeme : Lexeme
  position : Position

end PocketScheme
