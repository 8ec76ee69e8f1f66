import CallSchema.Proofs.Check
import CallSchema.Proofs.Result

/-!
The line breaks in the lines of a check. A diagnostic tells names as they stand in the document, and
has no line break of its own, so the lines have one break for each finding and those of the names
that are told. They are as many as the findings exactly if no name that is told has a break; a
quoted name may have one.
-/
namespace CallSchema

/-- The number of line breaks in a text. -/
def lineBreaks (text : String) : Nat := text.toList.count '\n'

@[simp] theorem lineBreaks_append (a b : String) :
    lineBreaks (a ++ b) = lineBreaks a + lineBreaks b := by
  simp [lineBreaks]

theorem lineBreaks_eq_zero_iff {text : String} : lineBreaks text = 0 ↔ '\n' ∉ text.toList :=
  List.count_eq_zero

/-- Texts put together have a line break if one of them has. -/
theorem lineBreaks_join_eq_zero_iff {texts : List String} :
    lineBreaks (String.join texts) = 0 ↔ ∀ text ∈ texts, '\n' ∉ text.toList := by
  simp [lineBreaks_eq_zero_iff]

/-- What stands between texts adds no line break if it has none. -/
theorem lineBreaks_intercalate (between : String) (texts : List String)
    (unbroken : lineBreaks between = 0) :
    lineBreaks (between.intercalate texts) = lineBreaks (String.join texts) := by
  induction texts with
  | nil => rfl
  | cons text rest ih =>
    cases rest with
    | nil => simp
    | cons next rest =>
      rw [String.join_cons, lineBreaks_append, ← ih, String.intercalate_cons_of_ne_nil (by simp)]
      simp [unbroken]

/-- What stands around each of some texts adds no line break if it has none. -/
theorem lineBreaks_join_map {α : Type} {shown name : α → String}
    (each : ∀ item, lineBreaks (shown item) = lineBreaks (name item)) (items : List α) :
    lineBreaks (String.join (items.map shown)) = lineBreaks (String.join (items.map name)) := by
  induction items with
  | nil => rfl
  | cons item rest ih => simp [each, ih]

/-- Texts that come in groups are put together group by group. -/
theorem join_flatMap {α : Type} (texts : α → List String) (items : List α) :
    String.join (items.flatMap texts) =
      String.join (items.map fun item => String.join (texts item)) := by
  induction items with
  | nil => rfl
  | cons item rest ih => simp [ih]

/-- Lines have the breaks that end them and those within them. -/
theorem lineBreaks_lines {α : Type} (display : α → String) (items : List α) :
    lineBreaks (String.join (items.map fun item => display item ++ "\n")) =
      items.length + lineBreaks (String.join (items.map display)) := by
  have ending : lineBreaks "\n" = 1 := rfl
  induction items with
  | nil => rfl
  | cons item rest ih =>
    simp only [List.map_cons, String.join_cons, lineBreaks_append, ending, ih, List.length_cons]
    omega

/-! ### Diagnostics -/

namespace Finding

/-- The names that a diagnostic tells, in order and as often as it tells them. -/
def told : Finding → List String
  | .symbols _ set => set.symbols.map Symbol.name
  | .cycle ring =>
    [ring.width.name, ring.start.name, ring.source.name, ring.target.name] ++
      ring.chain.map Symbol.name

/-- The words that open a diagnostic are on one line. -/
theorem lineBreaks_headline (kind : FindingKind) : lineBreaks kind.headline = 0 := by
  cases kind <;> decide +kernel

/-- A diagnostic has the line breaks of the names that it tells. -/
theorem lineBreaks_display (finding : Finding) :
    lineBreaks finding.display = lineBreaks (String.join finding.told) := by
  cases finding with
  | symbols kind set =>
    have quote : lineBreaks "'" = 0 := by decide
    have comma : lineBreaks ", " = 0 := by decide
    have opening : lineBreaks ": \x7b" = 0 := by decide
    have closing : lineBreaks "\x7d" = 0 := by decide
    have quoted (symbol : Symbol) :
        lineBreaks ("'" ++ symbol.name ++ "'") = lineBreaks symbol.name := by simp [quote]
    -- The diagnostic is written out here, as rewriting is slow to compare its long literals.
    change lineBreaks (kind.headline ++ ": \x7b" ++
      ", ".intercalate (set.symbols.map fun symbol => "'" ++ symbol.name ++ "'") ++ "\x7d") =
        lineBreaks (String.join (set.symbols.map Symbol.name))
    simp only [lineBreaks_append, lineBreaks_headline, opening, closing,
      lineBreaks_intercalate _ _ comma, lineBreaks_join_map quoted, Nat.zero_add, Nat.add_zero]
  | cycle ring =>
    have arrow : lineBreaks " -> " = 0 := by decide
    have words : ∀ text ∈ ["Highlevel parameter resolution for address width: ",
        " starting from: ", " contains ring between ", " and ", " (", ")"],
        lineBreaks text = 0 := by decide +kernel
    simp only [List.forall_mem_cons] at words
    obtain ⟨width, start, between, also, opening, closing, _⟩ := words
    change lineBreaks ("Highlevel parameter resolution for address width: " ++ ring.width.name ++
      " starting from: " ++ ring.start.name ++ " contains ring between " ++ ring.source.name ++
      " and " ++ ring.target.name ++ " (" ++ " -> ".intercalate (ring.chain.map Symbol.name) ++
      ")") = _
    simp only [told, lineBreaks_append, width, start, between, also, opening, closing,
      lineBreaks_intercalate _ _ arrow, List.cons_append, List.nil_append, String.join_cons,
      Nat.zero_add, Nat.add_zero, Nat.add_assoc]

end Finding

/-! ### The lines of a check -/

/-- **The lines of a check.** Each finding is told by its diagnostic and a line break after it. The
lines have one line break for each finding and those of the names that are told; so they have as
many as there are findings if and only if no name that is told has one. -/
theorem lineBreaks_check (path : String) (content : FileContent) (document : Document)
    (loaded : Document.load path content = .ok document) (before : ByteArray) (flushes : Bool) :
    let findings := document.validate.findings
    ∃ output : String,
      ((checkDocument path content .text).runOn ⟨before, none, flushes⟩).2.written =
        before ++ output.toUTF8 ∧
      output = String.join (findings.map fun finding => finding.display ++ "\n") ∧
      lineBreaks output =
        findings.length + lineBreaks (String.join (findings.flatMap Finding.told)) ∧
      (lineBreaks output = findings.length ↔
        ∀ finding ∈ findings, ∀ name ∈ finding.told, '\n' ∉ name.toList) := by
  intro findings
  have total : lineBreaks (String.join (findings.map fun finding => finding.display ++ "\n")) =
      findings.length + lineBreaks (String.join (findings.flatMap Finding.told)) := by
    rw [lineBreaks_lines, join_flatMap, lineBreaks_join_map Finding.lineBreaks_display]
  refine ⟨_, ?_, rfl, total, ?_⟩
  · rw [(Writing.writes_check_text loaded).runOn]
  · rw [total, Nat.add_eq_left, lineBreaks_join_eq_zero_iff, List.forall_mem_flatMap]

/-- A document with a ring of two aliases. -/
def ringedAliases : String :=
  "Modules:\nStructures:\nHighLevelParameterTypes:\n  w:\n    A: B\n    B: A\n" ++
  "BackingParameterTypes:\n"

/-- Its two findings are told on two lines. -/
theorem ringedAliases_twoLines :
    ∃ document, Document.load "defs.yaml" (.ok ringedAliases.toUTF8) = .ok document ∧
      document.validate.findings.length = 2 ∧
      ∃ output : String,
        ((checkDocument "defs.yaml" (.ok ringedAliases.toUTF8) .text).runOn {}).2.written =
          output.toUTF8 ∧ lineBreaks output = 2 := by
  obtain ⟨document, loaded, two, unbroken⟩ :
      ∃ document, Document.load "defs.yaml" (.ok ringedAliases.toUTF8) = .ok document ∧
        document.validate.findings.length = 2 ∧ ∀ finding ∈ document.validate.findings,
          ∀ name ∈ finding.told, '\n' ∉ name.toList := by decide +kernel
  obtain ⟨output, written, _, _, exact⟩ := lineBreaks_check _ _ document loaded .empty true
  rw [ByteArray.empty_append] at written
  exact ⟨document, loaded, two, output, written, (exact.mpr unbroken).trans two⟩

/-- A document with a type without a meaning that has a line break in its name. -/
def brokenName : String :=
  "Modules:\n  m:\n    f:\n      Parameters:\n        p: \"A\\nB\"\nStructures:\n" ++
  "HighLevelParameterTypes:\nBackingParameterTypes:\n"

/-- The only finding about it is told on two lines. -/
theorem brokenName_twoLines :
    ∃ document, Document.load "defs.yaml" (.ok brokenName.toUTF8) = .ok document ∧
      document.validate.findings = [.symbols .missingFunctionParameter (.ofList [⟨"A\nB"⟩])] ∧
      ((checkDocument "defs.yaml" (.ok brokenName.toUTF8) .text).runOn {}).2.written =
        "Function parameters with missing definitions: \x7b'A\nB'\x7d\n".toUTF8 ∧
      lineBreaks "Function parameters with missing definitions: \x7b'A\nB'\x7d\n" = 2 := by
  obtain ⟨document, loaded, one⟩ :
      ∃ document, Document.load "defs.yaml" (.ok brokenName.toUTF8) = .ok document ∧
        document.validate.findings =
          [.symbols .missingFunctionParameter (.ofList [⟨"A\nB"⟩])] := by decide +kernel
  have told : String.join (document.validate.findings.map fun finding => finding.display ++ "\n") =
      "Function parameters with missing definitions: \x7b'A\nB'\x7d\n" := by
    rw [one]
    decide +kernel
  refine ⟨document, loaded, one, ?_, by decide +kernel⟩
  rw [(Writing.writes_check_text loaded).runOn, told, ByteArray.empty_append]

end CallSchema
