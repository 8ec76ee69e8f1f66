import CallSchema.Json
import CallSchema.Proofs.Decimal

/-!
JSON texts. `Reads` is the grammar of JSON over the characters that are left to read: a value stands
at the front of an input and leaves a rest. Numbers with a fraction or an exponent are not read. A
text has one value at most (`IsText.unique`), and what is written over several lines is a text of
the value that was meant (`isText_pretty`), so a reader gets back exactly what a writer put in.
-/
namespace CallSchema

/-- The value has no number that may need a fraction or an exponent. -/
inductive Json.Whole : Json → Prop where
  | null : Whole .null
  | bool (value : Bool) : Whole (.bool value)
  | int (number : Int) : Whole (.int number)
  | string (text : String) : Whole (.string text)
  | array {items : List Json} (each : ∀ item ∈ items, Whole item) : Whole (.array items)
  | object {fields : List (String × Json)} (each : ∀ field ∈ fields, Whole field.2) :
    Whole (.object fields)

namespace JsonText

/-! ### The grammar -/

/-- The blanks that may stand between the parts of a text. -/
def isBlank (c : Char) : Bool := c == ' ' || c == '\t' || c == '\n' || c == '\r'

/-- What is left after blanks. -/
def skip (input : List Char) : List Char := input.dropWhile isBlank

/-- The character that a letter stands for after a backslash. -/
def escaped? : Char → Option Char
  | '\x22' => some '\x22'
  | '\\' => some '\\'
  | '/' => some '/'
  | 'b' => some '\x08'
  | 'f' => some '\x0c'
  | 'n' => some '\n'
  | 'r' => some '\r'
  | 't' => some '\t'
  | _ => none

/-- The characters of a string, up to the quote that closes it. A code point beyond four hexadecimal
digits is written as a pair of surrogates. -/
inductive Characters : List Char → List Char → List Char → Prop where
  | closed {rest : List Char} : Characters [] ('\x22' :: rest) rest
  | plain {c : Char} {text input rest : List Char} (shown : 0x20 ≤ c.toNat) (unquoted : c ≠ '\x22')
      (unescaped : c ≠ '\\') (more : Characters text input rest) :
      Characters (c :: text) (c :: input) rest
  | short {letter c : Char} {text input rest : List Char} (stands : escaped? letter = some c)
      (more : Characters text input rest) : Characters (c :: text) ('\\' :: letter :: input) rest
  | code {a b d e c : Char} {text input rest : List Char}
      (worth : Decimal.read? 16 [a, b, d, e] = some c.toNat) (more : Characters text input rest) :
      Characters (c :: text) ('\\' :: 'u' :: a :: b :: d :: e :: input) rest
  | pair {a b d e f g h i c : Char} {high low : Nat} {text input rest : List Char}
      (former : Decimal.read? 16 [a, b, d, e] = some high)
      (latter : Decimal.read? 16 [f, g, h, i] = some low)
      (surrogates : 0xd800 ≤ high ∧ high < 0xdc00 ∧ 0xdc00 ≤ low ∧ low < 0xe000)
      (worth : c.toNat = 0x10000 + (high - 0xd800) * 0x400 + (low - 0xdc00))
      (more : Characters text input rest) :
      Characters (c :: text)
        ('\\' :: 'u' :: a :: b :: d :: e :: '\\' :: 'u' :: f :: g :: h :: i :: input) rest

/-- The digits of a number, the first of which is a zero only if it is the only one, and after which
neither a fraction nor an exponent begins. -/
structure Digits (number : Nat) (input rest : List Char) : Prop where
  worth : Decimal.read? 10 (input.takeWhile Char.isDigit) = some number
  unpadded : ∀ others, input.takeWhile Char.isDigit = '0' :: others → others = []
  left : input.dropWhile Char.isDigit = rest
  whole : ∀ c ∈ rest.head?, c ∉ ['.', 'e', 'E']

mutual

/-- A value at the front of an input without leading blanks, and what is left after it. -/
inductive Reads : Json → List Char → List Char → Prop where
  | null {rest : List Char} : Reads .null ('n' :: 'u' :: 'l' :: 'l' :: rest) rest
  | yes {rest : List Char} : Reads (.bool true) ('t' :: 'r' :: 'u' :: 'e' :: rest) rest
  | no {rest : List Char} : Reads (.bool false) ('f' :: 'a' :: 'l' :: 's' :: 'e' :: rest) rest
  | natural {number : Nat} {input rest : List Char} (digits : Digits number input rest) :
    Reads (.int number) input rest
  | negative {number : Nat} {input rest : List Char} (digits : Digits number input rest) :
    Reads (.int (-number)) ('-' :: input) rest
  | string {text input rest : List Char} (characters : Characters text input rest) :
    Reads (.string (String.ofList text)) ('\x22' :: input) rest
  | emptyArray {input rest : List Char} (closed : skip input = ']' :: rest) :
    Reads (.array []) ('[' :: input) rest
  | array {items : List Json} {input rest : List Char}
      (within : ReadsItems items (skip input) rest) : Reads (.array items) ('[' :: input) rest
  | emptyObject {input rest : List Char} (closed : skip input = '\x7d' :: rest) :
    Reads (.object []) ('\x7b' :: input) rest
  | object {fields : List (String × Json)} {input rest : List Char}
      (within : ReadsFields fields (skip input) rest) :
      Reads (.object fields) ('\x7b' :: input) rest

/-- The items of an array, up to the bracket that closes it. -/
inductive ReadsItems : List Json → List Char → List Char → Prop where
  | last {item : Json} {input next rest : List Char} (read : Reads item input next)
      (closed : skip next = ']' :: rest) : ReadsItems [item] input rest
  | more {item : Json} {items : List Json} {input next after rest : List Char}
      (read : Reads item input next) (comma : skip next = ',' :: after)
      (others : ReadsItems items (skip after) rest) : ReadsItems (item :: items) input rest

/-- The fields of an object, up to the brace that closes it. -/
inductive ReadsFields : List (String × Json) → List Char → List Char → Prop where
  | last {name input next after left rest : List Char} {value : Json}
      (named : Characters name input next) (colon : skip next = ':' :: after)
      (read : Reads value (skip after) left) (closed : skip left = '\x7d' :: rest) :
      ReadsFields [(String.ofList name, value)] ('\x22' :: input) rest
  | more {name input next after left further rest : List Char} {value : Json}
      {fields : List (String × Json)} (named : Characters name input next)
      (colon : skip next = ':' :: after) (read : Reads value (skip after) left)
      (comma : skip left = ',' :: further) (others : ReadsFields fields (skip further) rest) :
      ReadsFields ((String.ofList name, value) :: fields) ('\x22' :: input) rest

end

/-- The text consists of one value, and of blanks around it. -/
def IsText (value : Json) (text : String) : Prop :=
  ∃ rest, Reads value (skip text.toList) rest ∧ skip rest = []

/-! ### One value at most -/

section
variable {input rest left : List Char}

/-- No character has the code point of a surrogate. -/
theorem not_surrogate {c : Char} (below : c.toNat < 0xdc00) : ¬ 0xd800 ≤ c.toNat := by
  have valid : c.toNat < 0xd800 ∨ 0xdfff < c.toNat ∧ c.toNat < 0x110000 := c.valid
  omega

/-- A quote, a backslash and the letter after it tell what comes next in a string. -/
theorem Characters.unique {text other : List Char} (first : Characters text input rest)
    (second : Characters other input left) : text = other ∧ rest = left := by
  induction first generalizing other left with
  | closed =>
    cases second with
    | closed => exact ⟨rfl, rfl⟩
    | plain _ unquoted => exact absurd rfl unquoted
  | plain shown unquoted unescaped _ ih =>
    cases second with
    | closed => exact absurd rfl unquoted
    | plain _ _ _ more =>
      obtain ⟨rfl, rfl⟩ := ih more
      exact ⟨rfl, rfl⟩
    | short | code | pair => exact absurd rfl unescaped
  | short stands _ ih =>
    cases second with
    | plain _ _ unescaped => exact absurd rfl unescaped
    | short standsToo more =>
      obtain ⟨rfl, rfl⟩ := ih more
      obtain rfl := Option.some.inj (stands.symm.trans standsToo)
      exact ⟨rfl, rfl⟩
    | code | pair => cases stands
  | code worth _ ih =>
    cases second with
    | plain _ _ unescaped => exact absurd rfl unescaped
    | short stands => cases stands
    | code worthToo more =>
      obtain ⟨rfl, rfl⟩ := ih more
      obtain rfl := Char.toNat_inj.mp (Option.some.inj (worth.symm.trans worthToo))
      exact ⟨rfl, rfl⟩
    | pair former _ surrogates =>
      obtain rfl := Option.some.inj (worth.symm.trans former)
      exact absurd surrogates.1 (not_surrogate surrogates.2.1)
  | pair former latter surrogates worth _ ih =>
    cases second with
    | plain _ _ unescaped => exact absurd rfl unescaped
    | short stands => cases stands
    | code worthToo =>
      obtain rfl := Option.some.inj (former.symm.trans worthToo)
      exact absurd surrogates.1 (not_surrogate surrogates.2.1)
    | pair formerToo latterToo _ worthToo more =>
      obtain ⟨rfl, rfl⟩ := ih more
      obtain rfl := Option.some.inj (former.symm.trans formerToo)
      obtain rfl := Option.some.inj (latter.symm.trans latterToo)
      obtain rfl := Char.toNat_inj.mp (worth.trans worthToo.symm)
      exact ⟨rfl, rfl⟩

theorem Digits.unique {number other : Nat} (first : Digits number input rest)
    (second : Digits other input left) : number = other ∧ rest = left :=
  ⟨Option.some.inj (first.worth.symm.trans second.worth), first.left.symm.trans second.left⟩

/-- A number begins with a digit. -/
theorem Digits.isDigit {number : Nat} {c : Char} (digits : Digits number (c :: input) rest) :
    c.isDigit = true := by
  have worth := digits.worth
  cases decimal : c.isDigit with
  | true => rfl
  | false =>
    rw [List.takeWhile_cons_of_neg (by simp [decimal])] at worth
    cases worth

theorem Digits.ne_nil {number : Nat} (digits : Digits number input rest) : input ≠ [] := by
  rintro rfl
  cases digits.worth

/-- The first character of a value is no blank and closes nothing. -/
theorem Reads.lead {value : Json} (read : Reads value input rest) :
    ∃ c tail, input = c :: tail ∧ isBlank c = false ∧ c ≠ ']' ∧ c ≠ '\x7d' := by
  cases read with
  | natural digits =>
    obtain ⟨digit, tail, rfl⟩ := List.exists_cons_of_ne_nil digits.ne_nil
    have decimal := digits.isDigit
    have different (c : Char) (other : c.isDigit = false) : digit ≠ c := by
      rintro rfl
      exact absurd decimal (by simp [other])
    refine ⟨digit, tail, rfl, ?_, different _ rfl, different _ rfl⟩
    simp [isBlank, different]
  | _ => exact ⟨_, _, rfl, by decide⟩

theorem ReadsItems.lead {items : List Json} (read : ReadsItems items input rest) :
    ∃ c tail, input = c :: tail ∧ isBlank c = false ∧ c ≠ ']' ∧ c ≠ '\x7d' := by
  cases read with
  | last read => exact read.lead
  | more read => exact read.lead

/-- What is not yet closed does not begin with what closes it. -/
theorem ReadsItems.not_closed {items : List Json} (read : ReadsItems items input rest) :
    input ≠ ']' :: left := by
  obtain ⟨c, tail, rfl, _, open_, _⟩ := read.lead
  exact fun same => open_ (List.cons.inj same).1

theorem ReadsFields.not_closed {fields : List (String × Json)}
    (read : ReadsFields fields input rest) : input ≠ '\x7d' :: left := by
  cases read <;> simp

mutual

/-- The first character of an input tells which value it holds, and what is left tells where the
value ends. Only whether an array or an object is empty is told later. -/
theorem Reads.unique {value other : Json} {input rest left : List Char}
    (first : Reads value input rest) (second : Reads other input left) :
    value = other ∧ rest = left := by
  cases first with
  | null | yes | no =>
    cases second with
    | natural digits =>
      cases digits.isDigit
    | _ => exact ⟨rfl, rfl⟩
  | natural digits =>
    cases second with
    | natural digitsToo =>
      obtain ⟨rfl, rfl⟩ := digits.unique digitsToo
      exact ⟨rfl, rfl⟩
    | _ => cases digits.isDigit
  | negative digits =>
    cases second with
    | natural digits =>
      cases digits.isDigit
    | negative digitsToo =>
      obtain ⟨rfl, rfl⟩ := digits.unique digitsToo
      exact ⟨rfl, rfl⟩
  | string characters =>
    cases second with
    | natural digits =>
      cases digits.isDigit
    | string charactersToo =>
      obtain ⟨rfl, rfl⟩ := characters.unique charactersToo
      exact ⟨rfl, rfl⟩
  | emptyArray closed =>
    cases second with
    | natural digits =>
      cases digits.isDigit
    | emptyArray closedToo =>
      cases closed.symm.trans closedToo
      exact ⟨rfl, rfl⟩
    | array within => exact absurd closed within.not_closed
  | array within =>
    cases second with
    | natural digits =>
      cases digits.isDigit
    | emptyArray closed => exact absurd closed within.not_closed
    | array withinToo =>
      obtain ⟨rfl, rfl⟩ := within.unique withinToo
      exact ⟨rfl, rfl⟩
  | emptyObject closed =>
    cases second with
    | natural digits =>
      cases digits.isDigit
    | emptyObject closedToo =>
      cases closed.symm.trans closedToo
      exact ⟨rfl, rfl⟩
    | object within => exact absurd closed within.not_closed
  | object within =>
    cases second with
    | natural digits =>
      cases digits.isDigit
    | emptyObject closed => exact absurd closed within.not_closed
    | object withinToo =>
      obtain ⟨rfl, rfl⟩ := within.unique withinToo
      exact ⟨rfl, rfl⟩

theorem ReadsItems.unique {items others : List Json} {input rest left : List Char}
    (first : ReadsItems items input rest) (second : ReadsItems others input left) :
    items = others ∧ rest = left := by
  cases first with
  | last read closed =>
    cases second with
    | last readToo closedToo =>
      obtain ⟨rfl, rfl⟩ := read.unique readToo
      cases closed.symm.trans closedToo
      exact ⟨rfl, rfl⟩
    | more readToo comma =>
      obtain ⟨rfl, rfl⟩ := read.unique readToo
      cases closed.symm.trans comma
  | more read comma further =>
    cases second with
    | last readToo closed =>
      obtain ⟨rfl, rfl⟩ := read.unique readToo
      cases closed.symm.trans comma
    | more readToo commaToo furtherToo =>
      obtain ⟨rfl, rfl⟩ := read.unique readToo
      cases comma.symm.trans commaToo
      obtain ⟨rfl, rfl⟩ := further.unique furtherToo
      exact ⟨rfl, rfl⟩

theorem ReadsFields.unique {fields others : List (String × Json)} {input rest left : List Char}
    (first : ReadsFields fields input rest) (second : ReadsFields others input left) :
    fields = others ∧ rest = left := by
  cases first with
  | last named colon read closed =>
    cases second with
    | last namedToo colonToo readToo closedToo =>
      obtain ⟨rfl, rfl⟩ := named.unique namedToo
      cases colon.symm.trans colonToo
      obtain ⟨rfl, rfl⟩ := read.unique readToo
      cases closed.symm.trans closedToo
      exact ⟨rfl, rfl⟩
    | more namedToo colonToo readToo comma =>
      obtain ⟨rfl, rfl⟩ := named.unique namedToo
      cases colon.symm.trans colonToo
      obtain ⟨rfl, rfl⟩ := read.unique readToo
      cases closed.symm.trans comma
  | more named colon read comma further =>
    cases second with
    | last namedToo colonToo readToo closed =>
      obtain ⟨rfl, rfl⟩ := named.unique namedToo
      cases colon.symm.trans colonToo
      obtain ⟨rfl, rfl⟩ := read.unique readToo
      cases closed.symm.trans comma
    | more namedToo colonToo readToo commaToo furtherToo =>
      obtain ⟨rfl, rfl⟩ := named.unique namedToo
      cases colon.symm.trans colonToo
      obtain ⟨rfl, rfl⟩ := read.unique readToo
      cases comma.symm.trans commaToo
      obtain ⟨rfl, rfl⟩ := further.unique furtherToo
      exact ⟨rfl, rfl⟩

end

/-- **A text has one value at most.** -/
theorem IsText.unique {value other : Json} {text : String} (first : IsText value text)
    (second : IsText other text) : value = other := by
  obtain ⟨_, read, _⟩ := first
  obtain ⟨_, readToo, _⟩ := second
  exact (read.unique readToo).1

end

/-! ### What is written -/

/-- Nothing that would belong to a number comes first. -/
def Ends (rest : List Char) : Prop := ∀ c ∈ rest.head?, c.isDigit = false ∧ c ∉ ['.', 'e', 'E']

section
variable {text input rest : List Char}

/-- A character is read back as it has been escaped. -/
theorem Characters.escapedChar (c : Char) (more : Characters text input rest) :
    Characters (c :: text) ((Json.escapedChar c).toList ++ input) rest := by
  have codes : ∀ code < 32, Decimal.read? 16 ['0', '0', Json.hexDigit (code / 16),
      Json.hexDigit (code % 16)] = some code := by decide
  rw [Json.escapedChar.eq_def]
  split
  case h_8 unquoted unescaped _ _ _ _ _ =>
    split
    · rename_i control
      rw [String.toList_ofList]
      exact .code (codes c.toNat control) more
    · rename_i shown
      rw [String.toList_singleton]
      exact .plain (Nat.le_of_not_lt shown) unquoted unescaped more
  all_goals exact .short rfl more

/-- A string is read back from its escaped characters. -/
theorem characters_text (text rest : List Char) :
    Characters text ((text.flatMap fun c => (Json.escapedChar c).toList) ++ '\x22' :: rest)
      rest := by
  induction text with
  | nil => exact .closed
  | cons c text ih =>
    rw [List.flatMap_cons, List.append_assoc]
    exact ih.escapedChar c

theorem reads_stringText (text : String) (rest : List Char) :
    Reads (.string text) ((Json.stringText text).toList ++ rest) rest := by
  have split : (Json.stringText text).toList ++ rest = '\x22' ::
      ((text.toList.flatMap fun c => (Json.escapedChar c).toList) ++ '\x22' :: rest) := by
    simp [Json.stringText, List.flatMap_map]
  have read := Reads.string (characters_text text.toList rest)
  rwa [String.ofList_toList, ← split] at read

/-- A number is read back from its digits, if nothing follows that would belong to it. -/
theorem digits_natural (number : Nat) (ends : Ends rest) :
    Digits number ((Decimal.natural number).toList ++ rest) rest := by
  have decimal : ∀ c ∈ (Decimal.natural number).toList, c.isDigit = true := fun c =>
    Decimal.isDigit_of_mem_natural
  have stops : rest.takeWhile Char.isDigit = [] ∧ rest.dropWhile Char.isDigit = rest := by
    cases rest with
    | nil => exact ⟨rfl, rfl⟩
    | cons c tail => simp [(ends c rfl).1]
  obtain ⟨digit, others, digits, _, zero⟩ := Decimal.natural_eq_cons number
  have taken : ((Decimal.natural number).toList ++ rest).takeWhile Char.isDigit =
      (Decimal.natural number).toList := by
    rw [List.takeWhile_append_of_pos decimal, stops.1, List.append_nil]
  constructor
  · rw [taken, Decimal.read?_natural]
  · rw [taken, digits]
    rintro _ ⟨⟩
    exact zero rfl
  · rw [List.dropWhile_append_of_pos decimal, stops.2]
  · exact fun c first => (ends c first).2

theorem ends_cons {c : Char} (other : c.isDigit = false ∧ c ∉ ['.', 'e', 'E']) :
    Ends (c :: rest) := by
  rintro _ ⟨⟩
  exact other

/-- No blank comes before a value. -/
theorem Reads.skip_eq {value : Json} (read : Reads value input rest) : skip input = input := by
  obtain ⟨c, tail, rfl, shown, _⟩ := read.lead
  rw [skip, List.dropWhile_cons_of_neg (by simp [shown])]

theorem skip_newLine (level : Nat) (input : List Char) :
    skip ((Json.newLine level).toList ++ input) = skip input := by
  refine List.dropWhile_append_of_pos fun c member => ?_
  rw [Json.newLine, String.toList_append, List.mem_append] at member
  rcases member with first | indented
  · obtain rfl := List.mem_singleton.mp first
    rfl
  · rw [String.toList_ofList] at indented
    obtain rfl := List.eq_of_mem_replicate indented
    rfl

/-- The value is read back from its text at any level, whatever follows. -/
def ReadBack (value : Json) : Prop :=
  ∀ level rest, Ends rest → Reads value ((value.prettyAt level).toList ++ rest) rest

/-- Items are read back from their lines, up to the bracket. -/
theorem readsItems_pretty {item : Json} {others : List Json} {close : List Char} (level : Nat)
    (each : ∀ value ∈ item :: others, ReadBack value) (ends : Ends close)
    (closed : skip close = ']' :: rest) : ReadsItems (item :: others)
      (skip ((Json.prettyItems level (item :: others)).toList ++ close)) rest := by
  induction others generalizing item with
  | nil =>
    have read := each item List.mem_cons_self level close ends
    rw [Json.prettyItems, String.toList_append, List.append_assoc, skip_newLine, read.skip_eq]
    exact .last read closed
  | cons next others ih =>
    have further := ih fun value member => each value (List.mem_cons_of_mem _ member)
    have read := each item List.mem_cons_self level
      (',' :: ((Json.prettyItems level (next :: others)).toList ++ close)) (ends_cons (by decide))
    have split : (Json.prettyItems level (item :: next :: others)).toList ++ close =
        (Json.newLine level).toList ++ ((item.prettyAt level).toList ++
          ',' :: ((Json.prettyItems level (next :: others)).toList ++ close)) := by
      simp [Json.prettyItems]
    rw [split, skip_newLine, read.skip_eq]
    exact .more read rfl further

/-- A field is read back from its line: its name, and its value after a colon. -/
theorem readsField_pretty {value : Json} {close : List Char} (level : Nat) (name : String)
    (back : ReadBack value) (ends : Ends close) : ∃ input next after,
      skip ((Json.newLine level ++ Json.stringText name ++ ": " ++ value.prettyAt level).toList ++
        close) = '\x22' :: input ∧
      Characters name.toList input next ∧ skip next = ':' :: after ∧
        Reads value (skip after) close := by
  have read := back level close ends
  have named := characters_text name.toList (':' :: ' ' :: ((value.prettyAt level).toList ++ close))
  have valued : Reads value (skip (' ' :: ((value.prettyAt level).toList ++ close))) close :=
    read.skip_eq.symm ▸ read
  refine ⟨_, _, _, ?_, named, rfl, valued⟩
  have split : (Json.newLine level ++ Json.stringText name ++ ": " ++
        value.prettyAt level).toList ++ close =
      (Json.newLine level).toList ++ '\x22' ::
        ((name.toList.flatMap fun c => (Json.escapedChar c).toList) ++
          '\x22' :: ':' :: ' ' :: ((value.prettyAt level).toList ++ close)) := by
    simp [Json.stringText, List.flatMap_map]
  rw [split, skip_newLine]
  rfl

/-- Fields are read back from their lines, up to the brace. -/
theorem readsFields_pretty {field : String × Json} {others : List (String × Json)}
    {close : List Char} (level : Nat) (each : ∀ entry ∈ field :: others, ReadBack entry.2)
    (ends : Ends close) (closed : skip close = '\x7d' :: rest) : ReadsFields (field :: others)
      (skip ((Json.prettyFields level (field :: others)).toList ++ close)) rest := by
  induction others generalizing field with
  | nil =>
    obtain ⟨name, value⟩ := field
    obtain ⟨input, next, after, lead, named, colon, read⟩ :=
      readsField_pretty level name (each _ List.mem_cons_self) ends
    have whole := ReadsFields.last named colon read closed
    rw [String.ofList_toList] at whole
    rw [Json.prettyFields, lead]
    exact whole
  | cons next others ih =>
    obtain ⟨name, value⟩ := field
    have further := ih fun entry member => each entry (List.mem_cons_of_mem _ member)
    obtain ⟨input, left, after, lead, named, colon, read⟩ :=
      readsField_pretty level name (each _ List.mem_cons_self) (ends_cons (by decide)
        : Ends (',' :: ((Json.prettyFields level (next :: others)).toList ++ close)))
    have split : (Json.prettyFields level ((name, value) :: next :: others)).toList ++ close =
        (Json.newLine level ++ Json.stringText name ++ ": " ++ value.prettyAt level).toList ++
          ',' :: ((Json.prettyFields level (next :: others)).toList ++ close) := by
      simp [Json.prettyFields]
    have whole := ReadsFields.more named colon read rfl further
    rw [String.ofList_toList] at whole
    rw [split, lead]
    exact whole

/-- What closes an array or an object stands on a line of its own. -/
theorem ends_newLine (level : Nat) (input : List Char) :
    Ends ((Json.newLine level).toList ++ input) := by
  have first : (Json.newLine level).toList = '\n' :: List.replicate (2 * level) ' ' := by
    simp [Json.newLine]
  rw [first]
  exact ends_cons (by decide)

/-- A value without fractions is read back from its text over several lines. -/
theorem readBack_of_whole {value : Json} (whole : value.Whole) : ReadBack value := by
  induction whole with
  | null =>
    intro level rest _
    have read : Reads .null ('n' :: 'u' :: 'l' :: 'l' :: rest) rest := .null
    simpa [Json.prettyAt] using read
  | bool value =>
    intro level rest _
    cases value with
    | false =>
      have read : Reads (.bool false) ('f' :: 'a' :: 'l' :: 's' :: 'e' :: rest) rest := .no
      simpa [Json.prettyAt] using read
    | true =>
      have read : Reads (.bool true) ('t' :: 'r' :: 'u' :: 'e' :: rest) rest := .yes
      simpa [Json.prettyAt] using read
  | int number =>
    intro level rest ends
    cases number with
    | ofNat number => exact .natural (digits_natural number ends)
    | negSucc number =>
      have read := Reads.negative (digits_natural (number + 1) ends)
      have split : (Json.prettyAt level (.int (.negSucc number))).toList ++ rest =
          '-' :: ((Decimal.natural (number + 1)).toList ++ rest) := by
        simp [Json.prettyAt, Decimal.integer]
      rw [split]
      exact read
  | string text => exact fun level rest _ => reads_stringText text rest
  | @array items _ each =>
    intro level rest _
    cases items with
    | nil =>
      have read : Reads (.array []) ('[' :: ']' :: rest) rest := .emptyArray rfl
      simpa [Json.prettyAt] using read
    | cons item others =>
      have closed : skip ((Json.newLine level).toList ++ ']' :: rest) = ']' :: rest :=
        skip_newLine level (']' :: rest)
      have within := readsItems_pretty (level + 1) each (ends_newLine level _) closed
      have split : (Json.prettyAt level (.array (item :: others))).toList ++ rest =
          '[' :: ((Json.prettyItems (level + 1) (item :: others)).toList ++
            ((Json.newLine level).toList ++ ']' :: rest)) := by
        simp [Json.prettyAt]
      rw [split]
      exact .array within
  | @object fields _ each =>
    intro level rest _
    cases fields with
    | nil =>
      have read : Reads (.object []) ('\x7b' :: '\x7d' :: rest) rest := .emptyObject rfl
      simpa [Json.prettyAt] using read
    | cons field others =>
      have closed : skip ((Json.newLine level).toList ++ '\x7d' :: rest) = '\x7d' :: rest :=
        skip_newLine level ('\x7d' :: rest)
      have within := readsFields_pretty (level + 1) each (ends_newLine level _) closed
      have split : (Json.prettyAt level (.object (field :: others))).toList ++ rest =
          '\x7b' :: ((Json.prettyFields (level + 1) (field :: others)).toList ++
            ((Json.newLine level).toList ++ '\x7d' :: rest)) := by
        simp [Json.prettyAt]
      rw [split]
      exact .object within

theorem isText_pretty {value : Json} (whole : value.Whole) : IsText value value.pretty := by
  have read := readBack_of_whole whole 0 [] (fun _ first => nomatch first)
  rw [List.append_nil] at read
  exact ⟨[], read.skip_eq.symm ▸ read, rfl⟩

/-- **What is written is one JSON text.** The text over several lines of a value without fractions
consists of that value, and of no other. -/
theorem isText_pretty_iff {value other : Json} (whole : value.Whole) :
    IsText other value.pretty ↔ other = value := by
  constructor
  · exact fun found => found.unique (isText_pretty whole)
  · rintro rfl
    exact isText_pretty whole

end

end JsonText
end CallSchema
