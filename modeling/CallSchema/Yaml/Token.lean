import CallSchema.Yaml.Scalar
import CallSchema.Yaml.Tag

/-!
The tokens of a text. Indentation becomes tokens of its own, which open and close block
collections. What a name before a colon means shows only at the colon: until then it may be a
scalar or a key, so a reader of tokens may not see past it.
-/
namespace CallSchema.Yaml

/-- What a token says. -/
inductive TokenKind where
  | streamEnd
  | version (major minor : Nat)
  | handle (name : String) (octets : List UInt8)
  | documentStart
  | documentEnd
  | blockSequenceStart
  | blockMappingStart
  | blockEnd
  | flowSequenceStart
  | flowSequenceEnd
  | flowMappingStart
  | flowMappingEnd
  | blockEntry
  | flowEntry
  | key
  | value
  | alias (name : String)
  | anchor (name : String)
  | tag (handle : String) (suffix : List UInt8)
  | scalar (style : ScalarStyle) (text : String)
  deriving DecidableEq

/-- A token, with the places where it starts and stops. -/
structure Token where
  kind : TokenKind
  start : Mark
  stop : Mark

/-- A token that may turn out to begin a key: its place among the tokens, and whether nothing but
a key can stand there. -/
structure KeyCandidate where
  position : Nat
  required : Bool
  mark : Mark

/-- How far a text is read: the tokens so far, latest first, and their number; the column of the
innermost open block collection and those of the others; the key candidates of the open brackets,
innermost first; and whether a key may begin here. -/
structure Scanner where
  cursor : Cursor
  tokens : List Token
  count : Nat
  indent : Int
  indents : List Int
  candidates : List (Option KeyCandidate)
  keyAllowed : Bool

namespace Scanner

/-- Nothing is read yet. -/
def ofText (text : List Char) : Scanner :=
  ⟨Cursor.ofText text, [], 0, -1, [], [none], true⟩

/-- Whether brackets are open. -/
def inFlow (scanner : Scanner) : Bool := 1 < scanner.candidates.length

/-- Adds a token before the token at a position. -/
def insert (scanner : Scanner) (position : Nat) (token : Token) : Scanner :=
  { scanner with
    tokens := scanner.tokens.insertIdx (scanner.count - position) token
    count := scanner.count + 1 }

/-- Adds the token that ends at a cursor and goes on from there. -/
def take (scanner : Scanner) (kind : TokenKind) (after : Cursor) : Scanner :=
  { scanner with
    tokens := ⟨kind, scanner.cursor.mark, after.mark⟩ :: scanner.tokens
    count := scanner.count + 1
    cursor := after }

/-- Past spaces, line ends and comments. A tab may not stand where a key may begin; outside
brackets a key may begin on every new line. -/
def skipToToken (flow : Bool) : Nat → Bool → Cursor → Bool × Cursor
  | 0, keyAllowed, cursor => (keyAllowed, cursor)
  | steps + 1, keyAllowed, cursor =>
    let cursor :=
      if cursor.mark.column == 0 && startsWith byteOrderMark cursor.rest then cursor.advance
      else cursor
    let cursor := cursor.skip fun c => c == ' ' || ((flow || !keyAllowed) && c == '\t')
    let cursor := cursor.skipComment
    match cursor.lineEnd? with
    | some (_, after) => skipToToken flow steps (keyAllowed || !flow) after
    | none => (keyAllowed, cursor)

/-- Drops the key candidates that can no longer be keys: a key stays within a line and within 1024
octets. There is none of these where a key is required. -/
def settle? (scanner : Scanner) : Option Scanner :=
  let stale (candidate : KeyCandidate) : Bool :=
    candidate.mark.line < scanner.cursor.mark.line ||
      candidate.mark.octets + 1024 < scanner.cursor.mark.octets
  if scanner.candidates.any fun candidate => candidate.any fun c => stale c && c.required then none
  else
    some { scanner with
      candidates := scanner.candidates.map fun candidate => candidate.filter fun c => !stale c }

/-- Gives up the innermost key candidate, unless a key is required there. -/
def dropCandidate? (scanner : Scanner) : Option Scanner :=
  match scanner.candidates with
  | [] => some scanner
  | candidate :: outer =>
    if candidate.any KeyCandidate.required then none
    else some { scanner with candidates := none :: outer }

/-- Notes that the next token may begin a key. -/
def noteCandidate? (scanner : Scanner) : Option Scanner :=
  if scanner.keyAllowed then
    let mark := scanner.cursor.mark
    let required := !scanner.inFlow && decide (scanner.indent = mark.column)
    match scanner.dropCandidate? with
    | none => none
    | some scanner =>
      some { scanner with
        candidates := some ⟨scanner.count, required, mark⟩ :: scanner.candidates.drop 1 }
  else some scanner

/-- Opens a block collection where the column is greater than that of the innermost one, by a
token that stands before the token at a position. -/
def openBlock (scanner : Scanner) (kind : TokenKind) (mark : Mark) (position : Nat) : Scanner :=
  if !scanner.inFlow && decide (scanner.indent < mark.column) then
    { scanner.insert position ⟨kind, mark, mark⟩ with
      indent := mark.column
      indents := scanner.indent :: scanner.indents }
  else scanner

/-- The columns that remain of those greater than a column, and how many do not. -/
def closed (column : Int) : Int → List Int → Nat × Int × List Int
  | indent, [] => (0, indent, [])
  | indent, outer :: rest =>
    if column < indent then
      let (count, remaining) := closed column outer rest
      (count + 1, remaining)
    else (0, indent, outer :: rest)

/-- Closes the block collections whose column is greater than a column. -/
def closeBlocks (scanner : Scanner) (column : Int) : Scanner :=
  if scanner.inFlow then scanner
  else
    let (count, indent, indents) := closed column scanner.indent scanner.indents
    let mark := scanner.cursor.mark
    { scanner with
      indent, indents
      tokens := List.replicate count ⟨.blockEnd, mark, mark⟩ ++ scanner.tokens
      count := scanner.count + count }

/-! ### One token after another -/

/-- The end of the text closes all block collections; what is left of a line counts as one. -/
def takeStreamEnd? (scanner : Scanner) : Option Scanner :=
  let cursor := scanner.cursor
  let mark := if cursor.mark.column = 0 then cursor.mark else cursor.mark.nextLine 0
  let scanner := { scanner with cursor := { cursor with mark } }.closeBlocks (-1)
  match scanner.dropCandidate? with
  | none => none
  | some scanner => some ({ scanner with keyAllowed := false }.take .streamEnd scanner.cursor)

/-- A decimal number of at most nine digits. -/
def versionPart? (cursor : Cursor) : Option (Nat × Cursor) :=
  let (digits, after) := cursor.span fun c => '0' ≤ c && c ≤ '9'
  if digits.length > 9 then none else (Decimal.read? 10 digits).map fun number => (number, after)

/-- A directive: the version of the format, or what a handle stands for. -/
def directive? (cursor : Cursor) : Option (TokenKind × Cursor) :=
  let (name, after) := cursor.advance.span isNameChar
  if !atGap after.rest then none
  else if name == ['Y', 'A', 'M', 'L'] then
    match versionPart? after.skipBlanks with
    | none => none
    | some (major, after) =>
      if startsWith '.' after.rest then
        (versionPart? after.advance).map fun (minor, after) => (.version major minor, after)
      else none
  else if name == ['T', 'A', 'G'] then
    (Tag.scanDirective? after).map fun (handle, octets, after) => (.handle handle octets, after)
  else none

/-- A directive takes its whole line and closes all block collections. -/
def takeDirective? (scanner : Scanner) : Option Scanner :=
  match (scanner.closeBlocks (-1)).dropCandidate? with
  | none => none
  | some scanner =>
    match directive? scanner.cursor with
    | none => none
    | some (kind, after) =>
      match after.skipRestOfLine? with
      | none => none
      | some next =>
        let scanner := { scanner with keyAllowed := false }.take kind after
        some { scanner with cursor := next }

/-- A document marker closes all block collections. -/
def takeMarker? (scanner : Scanner) (kind : TokenKind) : Option Scanner :=
  match (scanner.closeBlocks (-1)).dropCandidate? with
  | none => none
  | some scanner =>
    some ({ scanner with keyAllowed := false }.take kind (scanner.cursor.advanceBy 3))

/-- An opening bracket may begin a key, and a key may begin after it. -/
def takeOpening? (scanner : Scanner) (kind : TokenKind) : Option Scanner :=
  match scanner.noteCandidate? with
  | none => none
  | some scanner =>
    some ({ scanner with candidates := none :: scanner.candidates, keyAllowed := true }.take kind
      scanner.cursor.advance)

/-- A closing bracket ends the innermost open one, if any is open. -/
def takeClosing? (scanner : Scanner) (kind : TokenKind) : Option Scanner :=
  match scanner.dropCandidate? with
  | none => none
  | some scanner =>
    let candidates :=
      if scanner.inFlow then scanner.candidates.drop 1 else scanner.candidates
    some ({ scanner with candidates, keyAllowed := false }.take kind scanner.cursor.advance)

/-- A comma between entries. -/
def takeFlowEntry? (scanner : Scanner) : Option Scanner :=
  match scanner.dropCandidate? with
  | none => none
  | some scanner =>
    some ({ scanner with keyAllowed := true }.take .flowEntry scanner.cursor.advance)

/-- A hyphen before an entry opens a sequence where it is indented further than before. -/
def takeBlockEntry? (scanner : Scanner) : Option Scanner :=
  if !scanner.inFlow && !scanner.keyAllowed then none
  else
    let scanner := scanner.openBlock .blockSequenceStart scanner.cursor.mark scanner.count
    match scanner.dropCandidate? with
    | none => none
    | some scanner =>
      some ({ scanner with keyAllowed := true }.take .blockEntry scanner.cursor.advance)

/-- A question mark before a key opens a mapping where it is indented further than before. -/
def takeKey? (scanner : Scanner) : Option Scanner :=
  if !scanner.inFlow && !scanner.keyAllowed then none
  else
    let scanner := scanner.openBlock .blockMappingStart scanner.cursor.mark scanner.count
    match scanner.dropCandidate? with
    | none => none
    | some scanner =>
      some ({ scanner with keyAllowed := !scanner.inFlow }.take .key scanner.cursor.advance)

/-- A colon makes the innermost candidate a key; without a candidate it ends a key that a question
mark began. -/
def takeValue? (scanner : Scanner) : Option Scanner :=
  match scanner.candidates with
  | some candidate :: outer =>
    let key : Token := ⟨.key, candidate.mark, candidate.mark⟩
    let scanner := { scanner.insert candidate.position key with
      candidates := none :: outer
      keyAllowed := false }
    let scanner := scanner.openBlock .blockMappingStart candidate.mark candidate.position
    some (scanner.take .value scanner.cursor.advance)
  | _ =>
    if !scanner.inFlow && !scanner.keyAllowed then none
    else
      let scanner := scanner.openBlock .blockMappingStart scanner.cursor.mark scanner.count
      some ({ scanner with keyAllowed := !scanner.inFlow }.take .value scanner.cursor.advance)

/-- The name of an anchor or of an alias, after its indicator. -/
def anchorName? (cursor : Cursor) : Option (String × Cursor) :=
  let (name, after) := cursor.advance.span isNameChar
  let ends := atGap after.rest ||
    startsWithAny ['?', ':', ',', ']', '\x7d', '%', '@', '\x60'] after.rest
  if !name.isEmpty && ends then some (String.ofList name, after) else none

/-- A token that may begin a key and after which no key may begin. -/
def takeLeaf? (scanner : Scanner) (kind : TokenKind) (after : Cursor) : Option Scanner :=
  scanner.noteCandidate?.map fun scanner => { scanner with keyAllowed := false }.take kind after

/-- A block of lines cannot be a key; a key may begin after it. -/
def takeBlock? (scanner : Scanner) (folded : Bool) : Option Scanner :=
  match scanner.dropCandidate?, scanBlock folded scanner.indent scanner.cursor with
  | some scanner, some scanned =>
    let style := if folded then ScalarStyle.folded else .literal
    some ({ scanner with keyAllowed := true }.take (.scalar style scanned.text) scanned.after)
  | _, _ => none

/-- A plain scalar; a key may begin after it if it ended with a line. -/
def takePlain? (scanner : Scanner) : Option Scanner :=
  let cursor := scanner.cursor
  match scanPlain scanner.inFlow (scanner.indent + 1) cursor.rest cursor.mark {} with
  | none => none
  | some scanned =>
    (scanner.takeLeaf? (.scalar .plain scanned.text) scanned.after).map fun scanner =>
      { scanner with keyAllowed := scanned.onNewLine }

/-- Whether a plain scalar may start with the first character of a text. -/
def startsPlain (flow : Bool) : List Char → Bool
  | [] => false
  | c :: rest =>
    !(isBlank c || isBreak c || indicators.contains c) ||
      (c == '-' && !startsWithAny [' ', '\t'] rest) ||
      (!flow && (c == '?' || c == ':') && !atGap rest)

/-- Reads the token at the cursor, if there is one, with the tokens that closing block collections
puts before it. -/
def takeToken? (scanner : Scanner) : Option Scanner :=
  let flow := scanner.inFlow
  let cursor := scanner.cursor
  let atLineStart := cursor.mark.column == 0
  match cursor.rest with
  | [] => scanner.takeStreamEnd?
  | c :: rest =>
    if atLineStart && c == '%' then scanner.takeDirective?
    else if atLineStart && atMarker '-' cursor.rest then scanner.takeMarker? .documentStart
    else if atLineStart && atMarker '.' cursor.rest then scanner.takeMarker? .documentEnd
    else if c == '[' then scanner.takeOpening? .flowSequenceStart
    else if c == '\x7b' then scanner.takeOpening? .flowMappingStart
    else if c == ']' then scanner.takeClosing? .flowSequenceEnd
    else if c == '\x7d' then scanner.takeClosing? .flowMappingEnd
    else if c == ',' then scanner.takeFlowEntry?
    else if c == '-' && atGap rest then scanner.takeBlockEntry?
    else if c == '?' && (flow || atGap rest) then scanner.takeKey?
    else if c == ':' && (flow || atGap rest) then scanner.takeValue?
    else if c == '*' then
      (anchorName? cursor).bind fun (name, after) => scanner.takeLeaf? (.alias name) after
    else if c == '&' then
      (anchorName? cursor).bind fun (name, after) => scanner.takeLeaf? (.anchor name) after
    else if c == '!' then
      (Tag.scan? flow cursor).bind fun (handle, suffix, after) =>
        scanner.takeLeaf? (.tag handle suffix) after
    else if c == '|' && !flow then scanner.takeBlock? false
    else if c == '>' && !flow then scanner.takeBlock? true
    else if c == '\x27' then
      (scanQuoted false rest (cursor.mark.past c) {}).bind fun scanned =>
        scanner.takeLeaf? (.scalar .singleQuoted scanned.text) scanned.after
    else if c == '\x22' then
      (scanQuoted true rest (cursor.mark.past c) {}).bind fun scanned =>
        scanner.takeLeaf? (.scalar .doubleQuoted scanned.text) scanned.after
    else if startsPlain flow cursor.rest then scanner.takePlain?
    else none

/-- Reads on by one token, past at most `steps` lines before it. -/
def advance? (steps : Nat) (scanner : Scanner) : Option Scanner :=
  let (keyAllowed, cursor) := skipToToken scanner.inFlow steps scanner.keyAllowed scanner.cursor
  match { scanner with keyAllowed, cursor }.settle? with
  | none => none
  | some scanner =>
    match (scanner.closeBlocks scanner.cursor.mark.column).takeToken? with
    | none => none
    | some scanner => scanner.settle?

/-- The tokens that a reader may see: those before the first key candidate. -/
def visible (scanner : Scanner) : List Token :=
  let first := scanner.candidates.foldl (fun least candidate =>
    match candidate with
    | some candidate => min least candidate.position
    | none => least) scanner.count
  (scanner.tokens.drop (scanner.count - first)).reverse

/-- Reads on until the text ends, breaks a rule or cannot be read from a place on. Each token and
each line takes at least a character, so the length of the text bounds the steps. -/
def run (unreadable : Option Nat) : Nat → Scanner → List Token
  | 0, scanner => scanner.visible
  | steps + 1, scanner =>
    match scanner.advance? (steps + 1) with
    | none => scanner.visible
    | some next =>
      if unreadable.any fun place => decide (place ≤ next.cursor.mark.octets) then scanner.visible
      else if (next.tokens.head?.map Token.kind) == some .streamEnd then next.tokens.reverse
      else run unreadable steps next

end Scanner

/-- How many octets a portion of a text holds at most. A text is read portion by portion. -/
def portionSize : Nat := 16384

/-- Where the first portion begins that cannot be read because it holds a character that no
document may hold. The octets before the portion at hand and before the text at hand are given. -/
def unreadableFrom? (portion place : Nat) : List Char → Option Nat
  | [] => none
  | c :: rest =>
    let next := place + c.utf8Size
    let portion := if portion + portionSize < next then place else portion
    if isAllowed c then unreadableFrom? portion next rest else some portion

/-- The tokens of a text. They end with the end of the stream, unless the text breaks a rule of
tokens or cannot be read; then they are those that a reader may see before. -/
def tokens (text : List Char) : List Token :=
  Scanner.run (unreadableFrom? 0 0 text) (text.length + 2) (Scanner.ofText text)

end CallSchema.Yaml
