import CallSchema.Yaml.Character
import CallSchema.Yaml.Plain

/-!
How a scalar is written so that it reads back as itself. A text is written plainly if nothing in
it would be taken for markup and it would not be read as something else than a text; otherwise in
single quotes, or in double quotes if it holds what single quotes cannot. A text of several lines
keeps its lines where it stands in a place that allows them.
-/
namespace CallSchema.Yaml

/-- The ways to write a scalar. -/
inductive Style where
  | plain
  | single
  | double
  | literal
  deriving DecidableEq

namespace Style

/-- Characters that are written as they are. -/
def isShown (c : Char) : Bool :=
  c == '\n' || (' ' ≤ c && c ≤ '~') || ('\u00a0' ≤ c && c ≤ '\ufffd' && c != byteOrderMark) ||
    0x10000 ≤ c.toNat

/-- Characters that mean something else than themselves where a scalar starts. -/
def leadingMarkup : List Char :=
  [',', '[', ']', '\x7b', '\x7d', '#', '&', '*', '!', '|', '>', '\x27', '\x22', '%', '@', '\x60']

/-- Whether a text has a colon before a gap, or a number sign after one. -/
def hasInnerMarkup : List Char → Bool
  | [] => false
  | c :: rest =>
    (c == ':' && atGap rest) || ((isBlank c || isBreak c) && startsWith '#' rest) ||
      hasInnerMarkup rest

/-- Whether a text holds markup, or starts like a document marker. -/
def hasMarkup (text : List Char) : Bool :=
  ['-', '-', '-'].isPrefixOf text || ['.', '.', '.'].isPrefixOf text ||
    startsWithAny leadingMarkup text ||
    (startsWithAny ['-', '?'] text && atGap (text.drop 1)) || hasInnerMarkup text

/-- Whether a character is a space or ends a line. -/
def isEdge (c : Char) : Bool := c == ' ' || isBreak c

/-- Whether a character that passes the first test stands before one that passes the second. -/
def hasNeighbours (first second : Char → Bool) : List Char → Bool
  | a :: b :: rest => (first a && second b) || hasNeighbours first second (b :: rest)
  | _ => false

/-- A space before the end of a line. -/
def hasSpaceBeforeBreak (text : List Char) : Bool := hasNeighbours (· == ' ') isBreak text

/-- A space at the start of a line, the first one aside. -/
def hasSpaceAfterBreak (text : List Char) : Bool := hasNeighbours isBreak (· == ' ') text

/-- Whether a text may stand without quotes. -/
def allowsPlain (text : List Char) : Bool :=
  text.all isShown && !text.any isBreak && !hasMarkup text && !text.head?.any isEdge &&
    !text.getLast?.any isEdge

/-- Whether a text may stand in single quotes. -/
def allowsSingle (text : List Char) : Bool :=
  text.all isShown && !hasSpaceAfterBreak text && !hasSpaceBeforeBreak text

/-- Whether a text may stand line by line. -/
def allowsLiteral (text : List Char) : Bool :=
  !text.isEmpty && text.all isShown && !hasSpaceBeforeBreak text && text.getLast? != some ' '

/-- The style asked for a text. Lines are kept, and what could be read as another kind of value
is quoted, and so are digits after a zero, which look like a number. -/
def asked (text : String) : Style :=
  if text.toList.contains '\n' then .literal
  else if decide (Plain.meaning text = .text) && !Plain.isPadded text.toList then .plain
  else .single

/-- The style that is used: the one asked for, or the next that allows the text. The key of an
entry stands on one line. -/
def chosen (asked : Style) (asKey : Bool) (text : List Char) : Style :=
  let quotes : Style := if allowsSingle text then .single else .double
  if asKey && text.any isBreak then .double
  else
    match asked with
    | .plain => if allowsPlain text then .plain else quotes
    | .single => quotes
    | .literal => if allowsLiteral text && !asKey then .literal else .double
    | .double => .double

/-- A number with at least so many digits, in upper-case hexadecimal. -/
def hexadecimal (width number : Nat) : String :=
  let digits := (Nat.toDigits 16 number).map Char.toUpper
  String.ofList (List.replicate (width - digits.length) '0' ++ digits)

/-- A character inside double quotes. -/
def escaped (c : Char) : String :=
  match c with
  | '\x00' => "\\0"
  | '\x07' => "\\a"
  | '\x08' => "\\b"
  | '\t' => "\\t"
  | '\n' => "\\n"
  | '\x0b' => "\\v"
  | '\x0c' => "\\f"
  | '\r' => "\\r"
  | '\x1b' => "\\e"
  | '\x22' => "\\\""
  | '\\' => "\\\\"
  | '\u0085' => "\\N"
  | '\u2028' => "\\L"
  | '\u2029' => "\\P"
  | c =>
    if isShown c then String.singleton c
    else if c.toNat ≤ 0xff then "\\x" ++ hexadecimal 2 c.toNat
    else "\\u" ++ hexadecimal 4 c.toNat

/-- The marks that follow the bar of a text that is written line by line: the width of the
indentation where the text starts with a blank or a line's end, and whether line ends at its own
end are dropped or kept. -/
def literalHints (text : List Char) : String :=
  let width := if text.head?.any isEdge then "2" else ""
  let ends :=
    match text.reverse with
    | [] => "-"
    | last :: before =>
      if !isBreak last then "-"
      else if atLineEnd before then "+"
      else ""
  width ++ ends

end Style
end CallSchema.Yaml
