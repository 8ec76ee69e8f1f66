import CallSchema.Yaml.Style

/-!
A page of document text as it is written, line by line. It keeps the column, whether the next word
stands apart from the last one, and whether the line holds nothing yet but indentation and the
marks of items; from that follows where blanks and new lines are needed.
-/
namespace CallSchema.Yaml

/-- Text written so far, and how it ends. -/
structure Page where
  text : String := ""
  column : Nat := 0
  isApart : Bool := true
  isFresh : Bool := true

namespace Page

/-- Writes a piece of a line. -/
def put (page : Page) (piece : String) : Page :=
  { page with text := page.text ++ piece, column := page.column + piece.length }

/-- Ends the line. -/
def newLine (page : Page) : Page := { page with text := page.text ++ "\n", column := 0 }

/-- Writes a character that ends a line. -/
def putBreak (page : Page) (c : Char) : Page :=
  { page with text := page.text ++ String.singleton c, column := 0, isFresh := true }

/-- Stands apart from what is written. -/
def space (page : Page) : Page := if page.isApart then page else page.put " "

/-- Goes to the indentation of a line, which is a new one unless this one holds no more. -/
def indentTo (page : Page) (indent : Nat) : Page :=
  let page :=
    if !page.isFresh || indent < page.column || (page.column == indent && !page.isApart) then
      page.newLine
    else page
  let page := page.put (String.ofList (List.replicate (indent - page.column) ' '))
  { page with isApart := true, isFresh := true }

/-- Writes a word. -/
def word (page : Page) (content : String) : Page :=
  { page.space.put content with isApart := false, isFresh := false }

/-- Writes the mark of an item or of a part of an entry; the line stays as fresh as it is. -/
def mark (page : Page) (content : String) : Page :=
  { page.space.put content with isApart := false }

/-- Writes a mark that belongs to the last word. -/
def suffix (page : Page) (content : String) : Page :=
  { page.put content with isApart := false, isFresh := false }

/-- Writes characters in single quotes, after a character that ended a line or not. Quotes are
doubled, and a new line is indented. -/
def singleQuoted (indent : Nat) : Bool → List Char → Page → Page
  | afterBreak, [], page => if afterBreak then page.indentTo indent else page
  | afterBreak, c :: rest, page =>
    if c == ' ' then singleQuoted indent afterBreak rest (page.put " ")
    else if isBreak c then
      let page := if c == '\n' && !afterBreak then page.newLine else page
      singleQuoted indent true rest (page.putBreak c)
    else
      let page := if afterBreak then page.indentTo indent else page
      let page := page.put (if c == '\x27' then "''" else String.singleton c)
      singleQuoted indent false rest { page with isFresh := false }

/-- Writes characters line by line, after a character that ended a line or not. -/
def literalLines (indent : Nat) : Bool → List Char → Page → Page
  | _, [], page => page
  | afterBreak, c :: rest, page =>
    if isBreak c then literalLines indent true rest (page.putBreak c)
    else
      let page := if afterBreak then page.indentTo indent else page
      literalLines indent false rest { page.put (String.singleton c) with isFresh := false }

/-- Writes a scalar in a style. -/
def scalar (page : Page) (indent : Nat) (style : Style) (text : String) : Page :=
  match style with
  | .plain => page.word text
  | .single => (singleQuoted indent false text.toList (page.word "'")).suffix "'"
  | .double => page.word ("\"" ++ String.join (text.toList.map Style.escaped) ++ "\"")
  | .literal =>
    let page := (page.word ("|" ++ Style.literalHints text.toList)).newLine
    literalLines indent true text.toList { page with isApart := true, isFresh := true }

end Page
end CallSchema.Yaml
