import TableSchema.Sql.Dialect
import TableSchema.Sql.Token.Basic
import TableSchema.Text.Blank
import TableSchema.Text.Digit
import TableSchema.Text.Word

/-!
Cutting a statement into tokens. Blanks and comments separate tokens and are dropped. A quote that
is never closed, and a quoted binary or hexadecimal number with other digits, are the only faults.
-/

namespace TableSchema.Sql

inductive LexError where
  | unclosed (quote : Char)
  | badDigits (text : String)
  deriving DecidableEq, Repr

def LexError.message : LexError → String
  | unclosed quote => "Missing " ++ quote.toString
  | badDigits text => "Invalid digits " ++ text

namespace Lexer

def isStringQuote (d : Dialect) (c : Char) : Bool := c == '\'' || (d == .mysql && c == '"')

def nameQuote : Dialect → Char
  | .mysql => '\x60'
  | .postgres => '"'

/-- Characters that are tokens of their own or begin one, and so end a word. -/
def isMark (c : Char) : Bool :=
  ['(', ')', '[', ']', '\x7b', '\x7d', '&', '^', ':', ',', '-', '.', '=', '>', '<', '%', '!', '/',
    '\\', '+', ';', '*', '~', '?', '@', '#', '\'', '"', '\x60', '|'].contains c

/-- Operators of more than one character, the longest first. -/
def operators : List (List Char) :=
  ["<=>", "->>", "||", "&&", "<=", ">=", "<>", "!=", "::", ":=", "->", "@@", "=="].map
    String.toList

def escaped? : Char → Option Char
  | 'n' => some '\n'
  | 't' => some '\t'
  | 'r' => some '\r'
  | 'b' => some '\x08'
  | 'a' => some '\x07'
  | 'f' => some '\x0c'
  | 'v' => some '\x0b'
  | '\\' => some '\\'
  | _ => none

/-- The text up to the quote that closes a string, and the rest. A doubled quote stands for one;
with escapes, a backslash before that quote does too. -/
def readString (escapes : Bool) (quote : Char) : List Char → Option (List Char × List Char)
  | [] => none
  | c :: cs =>
    if c = quote then
      match cs with
      | [] => some ([], [])
      | d :: ds =>
        if d = quote then (readString escapes quote ds).map fun r => (quote :: r.1, r.2)
        else some ([], cs)
    else if escapes && c = '\\' then
      match cs with
      | [] => none
      | d :: ds =>
        let read := readString escapes quote ds
        if d = quote then read.map fun r => (quote :: r.1, r.2)
        else
          match escaped? d with
          | some e => read.map fun r => (e :: r.1, r.2)
          | none => read.map fun r => (c :: d :: r.1, r.2)
    else (readString escapes quote cs).map fun r => (c :: r.1, r.2)

/-- A text after the end of a comment that a line break ends. -/
def dropLine (cs : List Char) : List Char := cs.dropWhile (· ≠ '\n')

def dropComment : List Char → List Char
  | '*' :: '/' :: cs => cs
  | _ :: cs => dropComment cs
  | [] => []

def continuesWord (d : Dialect) (c : Char) : Bool :=
  !Text.isBlank c && (!isMark c || (d == .mysql && c == '@'))

/-- Whether a character that follows a number makes a word of it. -/
def startsName (c : Char) : Bool := Text.isWord c && !Text.isDigit c

/-- The length of a number after its first digit, given whether a point and an exponent have been
read; none if it is a word after all. `signed` says that the last character opened an exponent. -/
def numberLength? (point exponent signed : Bool) : List Char → Option Nat
  | [] => some 0
  | c :: cs =>
    if Text.isDigit c then (numberLength? point exponent false cs).map (· + 1)
    else if c = '.' && !point then (numberLength? true exponent false cs).map (· + 1)
    else if (c = '-' || c = '+') && signed then
      (numberLength? point exponent false cs).map (· + 1)
    else if (c = 'e' || c = 'E') && !exponent then
      (numberLength? point true true cs).map (· + 1)
    else if startsName c then none
    else some 0

/-- Whether all digits of a text have a value below a base. There must be one. -/
def hasBase (base : Nat) (cs : List Char) : Bool :=
  !cs.isEmpty && cs.all fun c =>
    let n := c.toNat
    if 0x30 ≤ n && n ≤ 0x39 then n - 0x30 < base
    else base == 16 && ((0x41 ≤ n && n ≤ 0x46) || (0x61 ≤ n && n ≤ 0x66))

/-- A number that begins with `0b` or `0x`, or else a name. -/
def basedNumber (base : Nat) (make : String → Token) (lead digits : List Char) : Token :=
  if hasBase base digits then make (String.ofList digits)
  else .name (String.ofList (lead ++ digits))

/-- The first token of a text that starts with neither a blank nor a comment, and the rest. -/
def first (d : Dialect) (c : Char) (cs : List Char) : Except LexError (Token × List Char) :=
  let quotedString (make : String → Token) (quote : Char) (cs : List Char) :
      Except LexError (Token × List Char) :=
    match readString (d == .mysql) quote cs with
    | some (text, rest) => .ok (make (String.ofList text), rest)
    | none => .error (.unclosed quote)
  let quotedDigits (base : Nat) (make : String → Token) (cs : List Char) :
      Except LexError (Token × List Char) :=
    match readString false '\'' cs with
    | some (text, rest) =>
      if hasBase base text then .ok (make (String.ofList text), rest)
      else .error (.badDigits (String.ofList text))
    | none => .error (.unclosed '\'')
  let word : Except LexError (Token × List Char) :=
    .ok (.word (String.ofList (c :: cs.takeWhile (continuesWord d))),
      cs.dropWhile (continuesWord d))
  if Text.isDigit c then
    match c, cs with
    | '0', b :: rest =>
      let digits := rest.takeWhile fun c => !Text.isBlank c && !isMark c
      if b = 'b' || b = 'B' then
        .ok (basedNumber 2 .bits ['0', b] digits, rest.drop digits.length)
      else if b = 'x' || b = 'X' then
        .ok (basedNumber 16 .hex ['0', b] digits, rest.drop digits.length)
      else
        match numberLength? false false false cs with
        | some n => .ok (.number (String.ofList (c :: cs.take n)), cs.drop n)
        | none => word
    | _, _ =>
      match numberLength? false false false cs with
      | some n => .ok (.number (String.ofList (c :: cs.take n)), cs.drop n)
      | none => word
  else if c = nameQuote d then
    match readString false c cs with
    | some (text, rest) => .ok (.name (String.ofList text), rest)
    | none => .error (.unclosed c)
  else if isStringQuote d c then quotedString .string c cs
  else
    match cs with
    | '\'' :: rest =>
      if c = 'b' || c = 'B' then quotedDigits 2 .bits rest
      else if c = 'x' || c = 'X' then quotedDigits 16 .hex rest
      else if c = 'n' || c = 'N' then quotedString .national '\'' rest
      else if isMark c then .ok (.symbol c.toString, cs)
      else word
    | _ =>
      if isMark c then
        match operators.find? fun op => op.isPrefixOf (c :: cs) with
        | some op => .ok (.symbol (String.ofList op), cs.drop (op.length - 1))
        | none => .ok (.symbol c.toString, cs)
      else word

/-- The tokens of a text of at most `fuel` characters. -/
def readFrom (d : Dialect) : Nat → List Char → Except LexError (List Token)
  | 0, _ => .ok []
  | _ + 1, [] => .ok []
  | fuel + 1, c :: cs =>
    if Text.isBlank c then readFrom d fuel cs
    else
      match c, cs with
      | '-', '-' :: rest => readFrom d fuel (dropLine rest)
      | '/', '*' :: rest => readFrom d fuel (dropComment rest)
      | _, _ =>
        if c = '#' && d == .mysql then readFrom d fuel (dropLine cs)
        else
          match first d c cs with
          | .error e => .error e
          | .ok (t, rest) => (readFrom d fuel rest).map (t :: ·)

def read (d : Dialect) (cs : List Char) : Except LexError (List Token) := readFrom d cs.length cs

end Lexer
end TableSchema.Sql
