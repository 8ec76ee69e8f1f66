import CallSchema.Proofs.Consistency
import CallSchema.Proofs.Layout

/-!
Missing types, seen from the check of a document and from resolution. The check puts the names of
all widths together and resolution sees one width at a time, but both mean the same by a type
without a definition: in every width its search stops where it begins (`missing_iff_unresolved`).
Such a type leaves each function without parameters that reaches it, however deep in structures.
-/
namespace CallSchema
open Relation Walk

namespace Resolver
variable {resolver : Resolver} {symbol : Symbol}

/-- A search stops at the symbol itself exactly if that is no backing type, no structure and no
alias of the width. -/
theorem basicType_eq_unresolved_self_iff :
    resolver.basicType symbol = .error (.unresolvedSymbol symbol resolver.width) ↔
      ¬ resolver.document.backing.contains symbol ∧
        ¬ resolver.document.structures.contains symbol ∧ ¬ resolver.aliases.contains symbol := by
  rw [basicType_eq_unresolved_iff]
  constructor
  · rintro ⟨-, ⟨-, none⟩, unbacked⟩
    have unstructured : ¬ resolver.document.structures.contains symbol := by
      intro structured
      simp [next_structure unbacked structured] at none
    rw [next_alias unbacked unstructured] at none
    exact ⟨unbacked, unstructured, Table.find?_eq_none_iff.mp none⟩
  · rintro ⟨unbacked, unstructured, unnamed⟩
    refine ⟨rfl, .here ?_, unbacked⟩
    rw [next_alias unbacked unstructured]
    exact Table.find?_eq_none_iff.mpr unnamed

/-- What has a size stands for a backing type. -/
theorem basicType_isOk_of_size {size : UInt64} (sized : resolver.size symbol = .ok size) :
    ∃ basic, resolver.basicType symbol = .ok basic := by
  obtain ⟨basic, _, stands, _⟩ := size_eq_ok_iff.mp sized
  exact ⟨basic, stands⟩

end Resolver

namespace Document
variable {document : Document} {symbol : Symbol}

/-- A symbol has no definition exactly if no width resolves it past itself. One width has to be
there, or structures and backing types would not be looked at. -/
theorem not_isDefined_iff
    (supported : ∃ width aliases, document.aliases? width = some aliases) :
    ¬ document.IsDefined symbol ↔
      ∀ width aliases (bound : document.aliases? width = some aliases),
        Resolver.basicType ⟨document, width, aliases, bound⟩ symbol =
          .error (.unresolvedSymbol symbol width) := by
  constructor
  · intro undefined width aliases bound
    refine Resolver.basicType_eq_unresolved_self_iff.mpr ⟨?_, ?_, ?_⟩
    · exact fun backed => undefined (.inr (.inr backed))
    · exact fun structured => undefined (.inl structured)
    · exact fun named => undefined (.inr (.inl ⟨width, aliases, bound, named⟩))
  · rintro unresolved (structured | ⟨width, aliases, bound, named⟩ | backed)
    · obtain ⟨width, aliases, bound⟩ := supported
      obtain ⟨-, unstructured, -⟩ :=
        Resolver.basicType_eq_unresolved_self_iff.mp (unresolved width aliases bound)
      exact unstructured structured
    · obtain ⟨-, -, unnamed⟩ :=
        Resolver.basicType_eq_unresolved_self_iff.mp (unresolved width aliases bound)
      exact unnamed named
    · obtain ⟨width, aliases, bound⟩ := supported
      obtain ⟨unbacked, -⟩ :=
        Resolver.basicType_eq_unresolved_self_iff.mp (unresolved width aliases bound)
      exact unbacked backed

/-- **Missing types are those that no width resolves.** In a document with a width, a type that is
used is told as missing exactly if in each width the search for its backing type stops at the type
itself. No function has its parameters in any width if the types of these are, or lead through the
fields of structures to, a type that is told as missing. -/
theorem missing_iff_unresolved (document : Document)
    (supported : ∃ width aliases, document.aliases? width = some aliases) (symbol : Symbol)
    (used : document.IsParameterType symbol ∨ document.IsFieldType symbol) :
    ((∃ set, .symbols .missingFunctionParameter set ∈ document.validate.findings ∧
        symbol ∈ set) ↔
      ∀ width aliases (bound : document.aliases? width = some aliases),
        Resolver.basicType ⟨document, width, aliases, bound⟩ symbol =
          .error (.unresolvedSymbol symbol width)) ∧
    ((∃ set, .symbols .missingFunctionParameter set ∈ document.validate.findings ∧
        symbol ∈ set) →
      ∀ module function functions signature parameters name type,
        document.modules.find? module = some functions →
        functions.find? function = some signature → signature.parameters = some parameters →
        parameters.find? name = some type → ReflTransGen document.HasField type symbol →
        ∀ width aliases (bound : document.aliases? width = some aliases),
          ∃ error, Resolver.functionParameters ⟨document, width, aliases, bound⟩ module function =
            .error error) := by
  have told : (∃ set, .symbols .missingFunctionParameter set ∈ document.validate.findings ∧
      symbol ∈ set) ↔ ¬ document.IsDefined symbol :=
    exists_symbols_iff.trans (and_iff_right used)
  rw [told]
  refine ⟨not_isDefined_iff supported, ?_⟩
  intro undefined module function functions signature parameters name type found named given typed
    leads width aliases bound
  have unresolved := (not_isDefined_iff supported).mp undefined width aliases bound
  -- had the function its parameters, the missing type would have a layout and so a size
  cases laidOut : Resolver.functionParameters ⟨document, width, aliases, bound⟩ module function with
  | error error => exact ⟨error, rfl⟩
  | ok parameters =>
    have layout := Resolver.hasLayout_of_functionParameters found named given typed laidOut
    obtain ⟨size, sized⟩ := (layout.part leads).sized
    obtain ⟨basic, stands⟩ := Resolver.basicType_isOk_of_size sized
    exact absurd (stands.symm.trans unresolved) (by simp)

/-- A structure in a structure with a field of a missing type; one width lacks an alias too. -/
def dangling : Document where
  modules := .ofList [("user32.dll", .ofList [("MoveWindow",
    ⟨some (.ofList [("hWnd", ⟨"HWND"⟩), ("lpRect", ⟨"RECT"⟩)])⟩)])]
  structures := .ofList [
    (⟨"POINT"⟩, .ofList [("x", ⟨⟨"COORD"⟩, some 0⟩)]),
    (⟨"RECT"⟩, .ofList [("corner", ⟨⟨"POINT"⟩, some 0⟩)])]
  highLevel := .ofList [
    (⟨"AddressWidth32Bit"⟩, .ofList [(⟨"HANDLE"⟩, ⟨"uint32_t"⟩), (⟨"HWND"⟩, ⟨"HANDLE"⟩)]),
    (⟨"AddressWidth64Bit"⟩, .ofList [(⟨"HWND"⟩, ⟨"HANDLE"⟩)])]
  backing := .ofList [(⟨"uint32_t"⟩, .int 4)]

theorem dangling_hasField : dangling.HasField ⟨"RECT"⟩ ⟨"POINT"⟩ ∧
    dangling.HasField ⟨"POINT"⟩ ⟨"COORD"⟩ :=
  ⟨⟨_, "corner", ⟨⟨"POINT"⟩, some 0⟩, rfl, rfl, rfl⟩, ⟨_, "x", ⟨⟨"COORD"⟩, some 0⟩, rfl, rfl, rfl⟩⟩

/-- No width resolves the type of the inner field, and the function that takes the outer structure
has its parameters in none of them. -/
theorem dangling_coord :
    (∃ width aliases, dangling.aliases? width = some aliases) ∧
    dangling.IsFieldType ⟨"COORD"⟩ ∧
    (∀ width aliases (bound : dangling.aliases? width = some aliases),
      Resolver.basicType ⟨dangling, width, aliases, bound⟩ ⟨"COORD"⟩ =
        .error (.unresolvedSymbol ⟨"COORD"⟩ width)) ∧
    ∀ width aliases (bound : dangling.aliases? width = some aliases),
      ∃ error, Resolver.functionParameters ⟨dangling, width, aliases, bound⟩ "user32.dll"
        "MoveWindow" = .error error := by
  have supported : ∃ width aliases, dangling.aliases? width = some aliases :=
    ⟨⟨"AddressWidth64Bit"⟩, _, rfl⟩
  have used : dangling.IsFieldType ⟨"COORD"⟩ := ⟨_, dangling_hasField.2⟩
  obtain ⟨told, failing⟩ := missing_iff_unresolved dangling supported ⟨"COORD"⟩ (.inr used)
  have listed : ∃ set, .symbols .missingFunctionParameter set ∈ dangling.validate.findings ∧
      (⟨"COORD"⟩ : Symbol) ∈ set :=
    ⟨.ofList [⟨"COORD"⟩], by decide, SymbolSet.contains_iff.mp (by decide)⟩
  exact ⟨supported, used, told.mp listed, failing listed _ _ _ _ _ "lpRect" ⟨"RECT"⟩ rfl rfl rfl rfl
    (.head dangling_hasField.1 (.single dangling_hasField.2))⟩

end Document
end CallSchema
