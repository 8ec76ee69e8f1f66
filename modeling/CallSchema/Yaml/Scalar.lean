import CallSchema.Number
import CallSchema.Yaml.Cursor

/-!
Scalars as they are written: plain, in single or double quotes, or as a block of lines. Between
the lines of a plain or quoted scalar, a single line's end counts as a space and of several the
first is dropped. Scalars are collected backwards, latest character first.
-/
namespace CallSchema.Yaml

/-- How a scalar is written. -/
inductive ScalarStyle where
  | plain
  | singleQuoted
  | doubleQuoted
  | literal
  | folded
  deriving DecidableEq

/-- The blanks and line ends since the last other character of a scalar. -/
structure Gap where
  blanks : List Char := []
  broken : Bool := false
  first : Option Char := none
  more : List Char := []

namespace Gap

/-- A blank counts only before the first line's end. -/
def blank (gap : Gap) (c : Char) : Gap :=
  if gap.broken then gap else { gap with blanks := c :: gap.blanks }

/-- The first line's end makes the blanks before it void. -/
def lineEnd (gap : Gap) (c : Char) : Gap :=
  if gap.broken then { gap with more := c :: gap.more }
  else { blanks := [], broken := true, first := some c, more := [] }

/-- What the gap contributes to the scalar, latest character first. -/
def folded (gap : Gap) : List Char :=
  if gap.broken then
    match gap.first with
    | none => gap.more
    | some '\n' => if gap.more.isEmpty then [' '] else gap.more
    | some c => gap.more ++ [c]
  else gap.blanks

end Gap

/-- A scalar's text, and the cursor past it. -/
structure Scanned where
  text : String
  after : Cursor
  /-- Whether a line has ended between the scalar and the cursor. -/
  onNewLine : Bool := false

/-! ### Plain scalars -/

/-- A plain scalar so far, and the gap after it. -/
structure PlainPart where
  text : List Char := []
  gap : Gap := {}
  inGap : Bool := false

/-- A plain scalar that ends here. -/
def PlainPart.close (part : PlainPart) (after : Cursor) : Scanned :=
  ⟨String.ofList part.text.reverse, after, part.gap.broken⟩

/-- Reads on in a plain scalar. Outside brackets a line that is not indented enough ends it; a tab
may not stand in for indentation. -/
def scanPlain (flow : Bool) (indent : Int) : List Char → Mark → PlainPart → Option Scanned
  | [], mark, part => some (part.close ⟨[], mark⟩)
  | '\r' :: '\n' :: rest, mark, part =>
    scanPlain flow indent rest (mark.nextLine 2)
      { part with gap := part.gap.lineEnd '\n', inGap := true }
  | c :: rest, mark, part =>
    if isBlank c then
      if part.gap.broken && decide ((mark.column : Int) < indent) && c == '\t' then none
      else
        scanPlain flow indent rest (mark.past c)
          { part with gap := part.gap.blank c, inGap := true }
    else if isBreak c then
      scanPlain flow indent rest (mark.nextLine c.utf8Size)
        { part with gap := part.gap.lineEnd (meantByBreak c), inGap := true }
    else if part.inGap && !flow && decide ((mark.column : Int) < indent) then
      some (part.close ⟨c :: rest, mark⟩)
    else if part.inGap && c == '#' then some (part.close ⟨c :: rest, mark⟩)
    else if mark.column == 0 && atAnyMarker (c :: rest) then some (part.close ⟨c :: rest, mark⟩)
    else if flow && c == ':' && startsWithAny ('?' :: flowIndicators) rest then none
    else if (c == ':' && atGap rest) || (flow && flowIndicators.contains c) then
      some (part.close ⟨c :: rest, mark⟩)
    else
      scanPlain flow indent rest (mark.past c) { text := c :: (part.gap.folded ++ part.text) }

/-! ### Quoted scalars -/

/-- A quoted scalar so far, the gap after it, and the digits still due of a numeric escape with
their value so far. -/
structure QuotedPart where
  text : List Char := []
  gap : Gap := {}
  escape : Option (Nat × Nat) := none

/-- The scalar with a further character. -/
def QuotedPart.push (part : QuotedPart) (c : Char) : QuotedPart :=
  { text := c :: (part.gap.folded ++ part.text) }

/-- The scalar with the opening of a numeric escape. -/
def QuotedPart.expect (part : QuotedPart) (digits : Nat) : QuotedPart :=
  { text := part.gap.folded ++ part.text, escape := some (digits, 0) }

/-- A further digit of a numeric escape; the last one completes a character. -/
def QuotedPart.digit? (part : QuotedPart) (due value : Nat) (c : Char) : Option QuotedPart :=
  match Decimal.digitValue? c with
  | none => none
  | some worth =>
    let value := value * 16 + worth
    if 1 < due then some { part with escape := some (due - 1, value) }
    else if (0xd800 ≤ value ∧ value ≤ 0xdfff) ∨ 0x10ffff < value then none
    else some { text := Char.ofNat value :: part.text }

/-- The character after a backslash, where it stands for one character. -/
def escaped? : Char → Option Char
  | '0' => some '\x00'
  | 'a' => some '\x07'
  | 'b' => some '\x08'
  | 't' => some '\t'
  | '\t' => some '\t'
  | 'n' => some '\n'
  | 'v' => some '\x0b'
  | 'f' => some '\x0c'
  | 'r' => some '\r'
  | 'e' => some '\x1b'
  | ' ' => some ' '
  | '\x22' => some '\x22'
  | '/' => some '/'
  | '\\' => some '\\'
  | 'N' => some '\u0085'
  | '_' => some '\u00a0'
  | 'L' => some '\u2028'
  | 'P' => some '\u2029'
  | _ => none

/-- The number of hexadecimal digits that follow a backslash and a letter. -/
def escapeDigits? : Char → Option Nat
  | 'x' => some 2
  | 'u' => some 4
  | 'U' => some 8
  | _ => none

/-- Reads on in a quoted scalar, up to the closing quote. -/
def scanQuoted (double : Bool) : List Char → Mark → QuotedPart → Option Scanned
  | [], _, _ => none
  | '\r' :: '\n' :: rest, mark, part =>
    if part.escape.isSome then none
    else scanQuoted double rest (mark.nextLine 2) { part with gap := part.gap.lineEnd '\n' }
  | c :: rest, mark, part =>
    match part.escape with
    | some (due, value) =>
      match part.digit? due value c with
      | none => none
      | some part => scanQuoted double rest (mark.past c) part
    | none =>
      if isBlank c then
        scanQuoted double rest (mark.past c) { part with gap := part.gap.blank c }
      else if isBreak c then
        scanQuoted double rest (mark.nextLine c.utf8Size)
          { part with gap := part.gap.lineEnd (meantByBreak c) }
      else if mark.column == 0 && atAnyMarker (c :: rest) then none
      else if double then
        if c == '\x22' then
          some ⟨String.ofList (part.gap.folded ++ part.text).reverse, ⟨rest, mark.past c⟩, false⟩
        else if c == '\\' then
          match rest with
          | [] => none
          | '\r' :: '\n' :: rest =>
            scanQuoted double rest ((mark.past c).nextLine 2)
              { text := part.gap.folded ++ part.text, gap := { broken := true } }
          | e :: rest =>
            if isBreak e then
              scanQuoted double rest ((mark.past c).nextLine e.utf8Size)
                { text := part.gap.folded ++ part.text, gap := { broken := true } }
            else
              match escaped? e, escapeDigits? e with
              | some meant, _ => scanQuoted double rest ((mark.past c).past e) (part.push meant)
              | none, some digits => scanQuoted double rest ((mark.past c).past e) (part.expect digits)
              | none, none => none
        else scanQuoted double rest (mark.past c) (part.push c)
      else if c == '\x27' then
        match rest with
        | '\x27' :: rest => scanQuoted double rest ((mark.past c).past '\x27') (part.push '\x27')
        | rest =>
          some ⟨String.ofList (part.gap.folded ++ part.text).reverse, ⟨rest, mark.past c⟩, false⟩
      else scanQuoted double rest (mark.past c) (part.push c)

/-! ### Blocks of lines -/

/-- What becomes of the line ends after the last line of a block. -/
inductive Chomping where
  | clip
  | strip
  | keep
  deriving DecidableEq

/-- The indicators after the opening character of a block, in either order: what becomes of the
last line ends, and how far the lines are indented (zero if that is left open). -/
def blockHeader? (cursor : Cursor) : Option (Chomping × Nat × Cursor) :=
  let (chomping, afterChomping) := chomp cursor
  match chomping with
  | some chomping => (width? afterChomping).map fun (width, after) => (chomping, width, after)
  | none =>
    (width? cursor).map fun (width, after) =>
      if width = 0 then (.clip, 0, after)
      else
        let (chomping, after) := chomp after
        (chomping.getD .clip, width, after)
where
  chomp (cursor : Cursor) : Option Chomping × Cursor :=
    if startsWith '+' cursor.rest then (some .keep, cursor.advance)
    else if startsWith '-' cursor.rest then (some .strip, cursor.advance)
    else (none, cursor)
  width? (cursor : Cursor) : Option (Nat × Cursor) :=
    match cursor.rest with
    | c :: _ =>
      if c == '0' then none
      else if '1' ≤ c ∧ c ≤ '9' then some (c.toNat - '0'.toNat, cursor.advance)
      else some (0, cursor)
    | [] => some (0, cursor)

/-- Past the indentation and the empty lines before a line with text, which are collected; while
the indentation is left open (zero), the widest one is noted. -/
def scanEmptyLines (indent : Nat) : List Char → Mark → Nat → List Char →
    Option (Cursor × Nat × List Char)
  | [], mark, widest, breaks => some (⟨[], mark⟩, max widest mark.column, breaks)
  | '\r' :: '\n' :: rest, mark, widest, breaks =>
    scanEmptyLines indent rest (mark.nextLine 2) (max widest mark.column) ('\n' :: breaks)
  | c :: rest, mark, widest, breaks =>
    let within := indent == 0 || decide (mark.column < indent)
    if within && c == ' ' then scanEmptyLines indent rest (mark.past c) widest breaks
    else if within && c == '\t' then none
    else if isBreak c then
      scanEmptyLines indent rest (mark.nextLine c.utf8Size) (max widest mark.column)
        (meantByBreak c :: breaks)
    else some (⟨c :: rest, mark⟩, max widest mark.column, breaks)

/-- A block so far: its text, the end of the last line, the empty lines after it, and whether the
last line began with a blank. -/
structure BlockPart where
  text : List Char := []
  lastEnd : List Char := []
  emptyLines : List Char := []
  blankFirst : Bool := false

/-- The text with what separates it from a next line; in a folded block one line's end between two
lines that begin with no blank is a space, and of several the first is dropped. -/
def BlockPart.joined (part : BlockPart) (folded blankNext : Bool) : List Char :=
  if folded && part.lastEnd == ['\n'] && !part.blankFirst && !blankNext then
    if part.emptyLines.isEmpty then ' ' :: part.text else part.emptyLines ++ part.text
  else part.emptyLines ++ part.lastEnd ++ part.text

/-- Reads on in a block, a line at a time, for as long as lines are indented. A step takes at
least a character, so the length of the text bounds the steps. -/
def scanBlockLines (folded : Bool) (indent : Nat) :
    Nat → Cursor → BlockPart → Option (BlockPart × Cursor)
  | 0, cursor, part => some (part, cursor)
  | steps + 1, cursor, part =>
    match cursor.rest with
    | [] => some (part, cursor)
    | c :: _ =>
      if cursor.mark.column = indent then
        let (line, atEnd) := cursor.span fun c => !isBreak c
        let (lastEnd, after) : List Char × Cursor :=
          match atEnd.lineEnd? with
          | some (ending, after) => ([ending], after)
          | none => ([], atEnd)
        match scanEmptyLines indent after.rest after.mark 0 [] with
        | none => none
        | some (after, _, emptyLines) =>
          scanBlockLines folded indent steps after
            { text := line.reverse ++ part.joined folded (isBlank c)
              lastEnd, emptyLines, blankFirst := isBlank c }
      else some (part, cursor)

/-- Reads a block from its opening character on. Lines whose indentation is not given are indented
as the first line with text, and further than their surroundings. -/
def scanBlock (folded : Bool) (surrounding : Int) (cursor : Cursor) : Option Scanned :=
  match blockHeader? cursor.advance with
  | none => none
  | some (chomping, width, after) =>
    match after.skipRestOfLine? with
    | none => none
    | some after =>
      let given : Nat := if width = 0 then 0 else (max surrounding 0).toNat + width
      match scanEmptyLines given after.rest after.mark 0 [] with
      | none => none
      | some (after, widest, emptyLines) =>
        let indent := if given = 0 then max (max widest (surrounding + 1).toNat) 1 else given
        match scanBlockLines folded indent (after.rest.length + 1) after { emptyLines } with
        | none => none
        | some (part, after) =>
          let text := if chomping = .strip then part.text else part.lastEnd ++ part.text
          let text := if chomping = .keep then part.emptyLines ++ text else text
          some ⟨String.ofList text.reverse, after, false⟩

end CallSchema.Yaml
