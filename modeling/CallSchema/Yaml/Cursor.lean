import CallSchema.Yaml.Character

/-!
Places in a text. A cursor holds what is left of the text and where that begins. Lines and columns
count from zero, columns in characters; how far a place is from the beginning counts in octets.
-/
namespace CallSchema.Yaml

/-- A place: the octets before it, its line, and the characters before it in the line. -/
structure Mark where
  octets : Nat
  line : Nat
  column : Nat
  deriving DecidableEq

instance : Inhabited Mark := ⟨⟨0, 0, 0⟩⟩

/-- The place after a character that ends no line. -/
def Mark.past (mark : Mark) (c : Char) : Mark :=
  ⟨mark.octets + c.utf8Size, mark.line, mark.column + 1⟩

/-- The start of the line after a line's end of a number of octets. -/
def Mark.nextLine (mark : Mark) (width : Nat) : Mark := ⟨mark.octets + width, mark.line + 1, 0⟩

/-- The rest of a text and the place where it begins. -/
structure Cursor where
  rest : List Char
  mark : Mark

namespace Cursor

/-- The beginning of a text. -/
def ofText (text : List Char) : Cursor := ⟨text, default⟩

/-- Past one character that ends no line. -/
def advance (cursor : Cursor) : Cursor :=
  match cursor.rest with
  | [] => cursor
  | c :: rest => ⟨rest, cursor.mark.past c⟩

/-- Past a number of characters that end no line. -/
def advanceBy : Nat → Cursor → Cursor
  | 0, cursor => cursor
  | count + 1, cursor => advanceBy count cursor.advance

/-- Past a line's end, with the character that it stands for in a scalar. -/
def lineEnd? (cursor : Cursor) : Option (Char × Cursor) :=
  match cursor.rest with
  | '\r' :: '\n' :: rest => some ('\n', ⟨rest, cursor.mark.nextLine 2⟩)
  | c :: rest =>
    if isBreak c then
      some (meantByBreak c, ⟨rest, cursor.mark.nextLine c.utf8Size⟩)
    else none
  | [] => none

/-- Past a line's end, if the cursor stands at one. -/
def skipLineEnd (cursor : Cursor) : Cursor :=
  match cursor.lineEnd? with
  | some (_, after) => after
  | none => cursor

/-- The leading characters that pass a test, none of them a line's end, and the cursor past them. -/
def span (test : Char → Bool) (cursor : Cursor) : List Char × Cursor :=
  go cursor.rest cursor.mark
where
  go : List Char → Mark → List Char × Cursor
    | [], mark => ([], ⟨[], mark⟩)
    | c :: rest, mark =>
      if test c then
        let (taken, after) := go rest (mark.past c)
        (c :: taken, after)
      else ([], ⟨c :: rest, mark⟩)

/-- Past the leading characters that pass a test, none of them a line's end. -/
def skip (test : Char → Bool) (cursor : Cursor) : Cursor := (cursor.span test).2

/-- Past blanks. -/
def skipBlanks (cursor : Cursor) : Cursor := cursor.skip isBlank

/-- Past a comment, up to the line's end. -/
def skipComment (cursor : Cursor) : Cursor :=
  if startsWith '#' cursor.rest then cursor.skip (fun c => !isBreak c) else cursor

/-- Past blanks, a comment and the line's end, if nothing else is left of the line. -/
def skipRestOfLine? (cursor : Cursor) : Option Cursor :=
  let after := cursor.skipBlanks.skipComment
  if atLineEnd after.rest then some after.skipLineEnd else none

end Cursor
end CallSchema.Yaml
