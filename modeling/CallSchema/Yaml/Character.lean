/-!
The character classes of document text. Only these characters matter for where a token begins and
ends; the end of the text counts as a blank that ends lines too.
-/
namespace CallSchema.Yaml

/-- A space or a tab. -/
def isBlank (c : Char) : Bool := c == ' ' || c == '\t'

/-- A character that ends a line. -/
def isBreak (c : Char) : Bool :=
  c == '\r' || c == '\n' || c == '\u0085' || c == '\u2028' || c == '\u2029'

/-- What the end of a line stands for in a scalar; only the two Unicode separators stand for
themselves. -/
def meantByBreak (c : Char) : Char := if c == '\u2028' || c == '\u2029' then c else '\n'

/-- Whether the text stands at a line's end or at its own. -/
def atLineEnd : List Char → Bool
  | [] => true
  | c :: _ => isBreak c

/-- Whether the text stands at a blank, a line's end or its own end. -/
def atGap : List Char → Bool
  | [] => true
  | c :: _ => isBlank c || isBreak c

/-- Whether the text begins with a character. -/
def startsWith (c : Char) : List Char → Bool
  | [] => false
  | head :: _ => head == c

/-- Whether the text begins with one of some characters. -/
def startsWithAny (chars : List Char) : List Char → Bool
  | [] => false
  | head :: _ => chars.contains head

/-- Letters and digits of names: anchors, handles and directives. -/
def isNameChar (c : Char) : Bool :=
  ('0' ≤ c && c ≤ '9') || ('A' ≤ c && c ≤ 'Z') || ('a' ≤ c && c ≤ 'z') || c == '_' || c == '-'

/-- Characters that a tag may hold besides letters and digits. -/
def tagChars : List Char :=
  [';', '/', '?', ':', '@', '&', '=', '+', '$', '.', '%', '!', '~', '*', '\x27', '(', ')']

/-- Characters that a tag may hold besides, where it stands between angle brackets or in a
directive. -/
def bracketedTagChars : List Char := [',', '[', ']']

/-- Characters that may not start a plain scalar. -/
def indicators : List Char :=
  ['-', '?', ':', ',', '[', ']', '\x7b', '\x7d', '#', '&', '*', '!', '|', '>', '\x27', '\x22',
   '%', '@', '\x60']

/-- Characters that end a plain scalar inside brackets. -/
def flowIndicators : List Char := [',', '[', ']', '\x7b', '\x7d']

/-- The mark that may open a line without being part of the text. -/
def byteOrderMark : Char := '\ufeff'

/-- Characters that document text may hold at all. -/
def isAllowed (c : Char) : Bool :=
  c == '\t' || c == '\n' || c == '\r' || (' ' ≤ c && c ≤ '~') || c == '\u0085' ||
    ('\u00a0' ≤ c && c ≤ '\ufffd') || 0x10000 ≤ c.toNat

/-- Whether the text stands at a document marker: three of a character, then a gap. -/
def atMarker (c : Char) : List Char → Bool
  | a :: b :: d :: rest => a == c && b == c && d == c && atGap rest
  | _ => false

/-- Whether the text stands at either document marker. -/
def atAnyMarker (text : List Char) : Bool := atMarker '-' text || atMarker '.' text

end CallSchema.Yaml
