import CallSchema.Proofs.Layout

/-!
What a function's description depends on. `Relevant` collects the symbols that the description looks
up in a width: it follows the types of fields and the targets of aliases, and from each structure it
goes on to the handle type. Two documents that agree on these symbols describe the function alike,
errors included, whatever else they define (`describe_congr`).
-/
namespace CallSchema
open Relation Walk

/-- The types of the declared parameters, in calling order; none if none are given. -/
def Signature.types (signature : Signature) : List Symbol :=
  match signature.parameters with
  | none => []
  | some parameters => parameters.values

namespace Resolver
variable {first second : Resolver} {signature : Signature} {symbol type : Symbol}

/-- The symbols that a function's parameters depend on in a width: the types that it takes and, from
there on, the types of a structure's fields, the handle type that a structure stands for, and the
target of an alias. -/
inductive Relevant (resolver : Resolver) (signature : Signature) : Symbol → Prop where
  | taken {type : Symbol} (taken : type ∈ signature.types) : Relevant resolver signature type
  | field {holder type : Symbol} (relevant : Relevant resolver signature holder)
      (held : resolver.document.HasField holder type) : Relevant resolver signature type
  | handle {name : Symbol} (relevant : Relevant resolver signature name)
      (structured : resolver.document.structures.contains name) :
      Relevant resolver signature handleType
  | target {name target : Symbol} (relevant : Relevant resolver signature name)
      (edge : resolver.aliases.find? name = some target) : Relevant resolver signature target

/-- Both views give a symbol the same fields, the same target and the same size, or none. -/
structure AgreeOn (first second : Resolver) (symbol : Symbol) : Prop where
  structures : first.document.structures.find? symbol = second.document.structures.find? symbol
  aliases : first.aliases.find? symbol = second.aliases.find? symbol
  backing : first.document.backing.find? symbol = second.document.backing.find? symbol

namespace AgreeOn

theorem structured (agree : AgreeOn first second symbol) :
    first.document.structures.contains symbol = second.document.structures.contains symbol :=
  congrArg Option.isSome agree.structures

theorem backed (agree : AgreeOn first second symbol) :
    first.document.backing.contains symbol = second.document.backing.contains symbol :=
  congrArg Option.isSome agree.backing

/-- The same symbol stands next in both. -/
theorem next_eq (agree : AgreeOn first second symbol) : first.next symbol = second.next symbol := by
  rw [next, next, agree.backed, agree.structured, agree.aliases]

end AgreeOn

/-- What stands in the place of a relevant symbol is relevant. -/
theorem Relevant.step {target : Symbol} (relevant : first.Relevant signature symbol)
    (edge : first.next symbol = some target) : first.Relevant signature target := by
  rw [next] at edge
  split at edge
  · contradiction
  · split at edge
    · rename_i structured
      cases edge
      exact .handle relevant structured
    · exact .target relevant edge

theorem Relevant.reaches {target : Symbol} (relevant : first.Relevant signature symbol)
    (leads : Reaches first.next symbol target) : first.Relevant signature target := by
  induction leads with
  | refl => exact relevant
  | tail _ edge ih => exact ih.step edge

/-- The relevant symbols are the fewest: they are among any symbols that hold the types taken and,
with each symbol, those that this one leads to. -/
theorem Relevant.mem_of_closed {symbols : List Symbol}
    (taken : ∀ type ∈ signature.types, type ∈ symbols)
    (fields : ∀ entry ∈ first.document.structures.entries, entry.1 ∈ symbols →
      handleType ∈ symbols ∧ ∀ field ∈ entry.2.values, field.type ∈ symbols)
    (targets : ∀ entry ∈ first.aliases.entries, entry.1 ∈ symbols → entry.2 ∈ symbols)
    (relevant : first.Relevant signature symbol) : symbol ∈ symbols := by
  induction relevant with
  | taken member => exact taken _ member
  | field _ held ih =>
    obtain ⟨entries, name, field, bound, named, rfl⟩ := held
    exact (fields _ (Table.find?_eq_some_iff.mp bound) ih).2 field
      (Listing.mem_values.mpr ⟨name, named⟩)
  | handle _ structured ih =>
    obtain ⟨entries, bound⟩ := Table.contains_iff.mp structured
    exact (fields _ (Table.find?_eq_some_iff.mp bound) ih).1
  | target _ edge ih => exact targets _ (Table.find?_eq_some_iff.mp edge) ih

/-- Where all symbols passed are treated alike, the search has the same answer. -/
theorem basicType_congr (width : first.width = second.width)
    (agree : ∀ passed, Reaches first.next symbol passed → AgreeOn first second passed) :
    first.basicType symbol = second.basicType symbol :=
  basicType_eq_of_next width (fun passed leads => (agree passed leads).next_eq.symm)
    fun passed leads => (agree passed leads).backed

theorem size_congr (width : first.width = second.width)
    (agree : ∀ passed, Reaches first.next symbol passed → AgreeOn first second passed) :
    first.size symbol = second.size symbol := by
  rw [size, size, ← basicType_congr width agree]
  cases stands : first.basicType symbol with
  | error error => rfl
  | ok basic =>
    have ends := (basicType_eq_ok_iff.mp stands).1
    simp only [(agree basic ends.1).backing, width]

/-! ### Layouts and functions -/

section
variable {levels fewer : Nat} {entered : List Symbol} {name module function : String}
  {offset : UInt64} (width : first.width = second.width)
  (agree : ∀ symbol, first.Relevant signature symbol → AgreeOn first second symbol)
include width agree

theorem layoutWith_congr (relevant : first.Relevant signature type) (fields : List Parameter) :
    first.layoutWith name type offset fields = second.layoutWith name type offset fields := by
  have passed (symbol : Symbol) (leads : Reaches first.next type symbol) :
      AgreeOn first second symbol := agree symbol (relevant.reaches leads)
  rw [layoutWith, layoutWith, basicType_congr width passed, size_congr width passed]

/-- A relevant type has the same layout in both. The induction is on the levels of one document; the
other may have more structures or fewer, and `Enclosed` makes sure that neither runs out. -/
theorem layoutWithin_congr (relevant : first.Relevant signature type)
    (enclosed : first.document.Enclosed levels entered type)
    (others : second.document.Enclosed fewer entered type) :
    first.layoutWithin levels entered name type offset =
      second.layoutWithin fewer entered name type offset := by
  induction levels generalizing fewer entered name type offset with
  | zero => exact absurd enclosed.levels_pos (Nat.lt_irrefl 0)
  | succ levels ih =>
    cases fewer with
    | zero => exact absurd others.levels_pos (Nat.lt_irrefl 0)
    | succ fewer =>
      have last (fields : List Parameter) : first.layoutWith name type offset fields =
          second.layoutWith name type offset fields := layoutWith_congr width agree relevant fields
      have same := (agree type relevant).structures
      rw [layoutWithin, layoutWithin, same]
      cases bound : second.document.structures.find? type with
      | none => exact last []
      | some fields =>
        dsimp only
        split
        · rfl
        · rename_i fresh
          have each : ∀ entry ∈ fields.entries,
              first.layoutWithin levels (type :: entered) entry.1 entry.2.type
                (entry.2.offset.getD 0) =
              second.layoutWithin fewer (type :: entered) entry.1 entry.2.type
                (entry.2.offset.getD 0) := by
            intro entry listed
            have named := Listing.find?_eq_some_iff.mpr listed
            have held : first.document.HasField type entry.2.type :=
              ⟨fields, entry.1, entry.2, same.trans bound, named, rfl⟩
            exact ih (.field relevant held) (enclosed.field fresh held)
              (others.field fresh ⟨fields, entry.1, entry.2, bound, named, rfl⟩)
          rw [mapM_congr each]
          simp only [last]

theorem functionParameters_congr
    (described : first.document.signature? module function = some signature)
    (describedToo : second.document.signature? module function = some signature) :
    first.functionParameters module function = second.functionParameters module function := by
  obtain ⟨functions, bound, named⟩ := Option.bind_eq_some_iff.mp described
  obtain ⟨others, boundToo, namedToo⟩ := Option.bind_eq_some_iff.mp describedToo
  cases given : signature.parameters with
  | none => simp only [functionParameters, bound, boundToo, named, namedToo, given]
  | some parameters =>
    rw [functionParameters_eq bound named given, functionParameters_eq boundToo namedToo given]
    refine mapM_congr fun entry listed => ?_
    have taken : entry.2 ∈ signature.types := by
      rw [Signature.types, given]
      exact List.mem_map_of_mem listed
    exact layoutWithin_congr width agree (.taken taken) (.start first.document entry.2)
      (.start second.document entry.2)

end

end Resolver

namespace Document

/-- **A function depends on no more than it leads to.** Let two documents have a width and give a
function the same signature. If they agree on all symbols that are relevant to it in the width, the
function has the same parameters in both, or cannot be described for the same reason. -/
theorem describe_congr (first second : Document) (width : AddressWidth)
    (aliases others : AliasTable) (supported : first.aliases? width = some aliases)
    (supportedToo : second.aliases? width = some others) (module function : String)
    (signature : Signature) (described : first.signature? module function = some signature)
    (describedToo : second.signature? module function = some signature)
    (agree : ∀ symbol, Resolver.Relevant ⟨first, width, aliases, supported⟩ signature symbol →
      first.structures.find? symbol = second.structures.find? symbol ∧
        aliases.find? symbol = others.find? symbol ∧
        first.backing.find? symbol = second.backing.find? symbol) :
    first.describe module function width.name = second.describe module function width.name := by
  have same : Resolver.functionParameters ⟨first, width, aliases, supported⟩ module function =
      Resolver.functionParameters ⟨second, width, others, supportedToo⟩ module function := by
    refine Resolver.functionParameters_congr rfl (fun symbol relevant => ?_) described describedToo
    obtain ⟨structures, targets, backing⟩ := agree symbol relevant
    exact ⟨structures, targets, backing⟩
  rw [describe_eq supported, describe_eq supportedToo, same]

/-- A function that takes an alias and a structure with another structure inside. -/
def moveWindow : Signature := ⟨some (.ofList [("hWnd", ⟨"HWND"⟩), ("lpRect", ⟨"RECT"⟩)])⟩

/-- The wider of two widths. -/
def desktop : Resolver where
  document :=
    { modules := .ofList [("user32.dll", .ofList [("MoveWindow", moveWindow)])]
      structures := .ofList [
        (⟨"POINT"⟩, .ofList [("x", ⟨⟨"LONG"⟩, some 0⟩)]),
        (⟨"RECT"⟩, .ofList [("corner", ⟨⟨"POINT"⟩, some 0⟩)])]
      highLevel := .ofList [
        (⟨"AddressWidth32Bit"⟩, .ofList [(⟨"HANDLE"⟩, ⟨"uint32_t"⟩)]),
        (⟨"AddressWidth64Bit"⟩, .ofList [(⟨"HANDLE"⟩, ⟨"uint64_t"⟩), (⟨"HWND"⟩, ⟨"HANDLE"⟩)])]
      backing := .ofList [(⟨"LONG"⟩, .int 4), (⟨"uint32_t"⟩, .int 4), (⟨"uint64_t"⟩, .int 8)] }
  width := ⟨"AddressWidth64Bit"⟩
  aliases := .ofList [(⟨"HANDLE"⟩, ⟨"uint64_t"⟩), (⟨"HWND"⟩, ⟨"HANDLE"⟩)]
  bound := by decide

/-- The same width without the other one and its backing type, and with a module, a function, a
structure that contains itself, an alias and a backing type more. -/
def desktopGrown : Resolver where
  document :=
    { modules := .ofList [
        ("gdi32.dll", .ofList [("GetPixel", ⟨none⟩)]),
        ("user32.dll", .ofList [("GetMessageW", ⟨some (.ofList [("lpMsg", ⟨"MSG"⟩)])⟩),
          ("MoveWindow", moveWindow)])]
      structures := .ofList [
        (⟨"MSG"⟩, .ofList [("next", ⟨⟨"MSG"⟩, none⟩)]),
        (⟨"POINT"⟩, .ofList [("x", ⟨⟨"LONG"⟩, some 0⟩)]),
        (⟨"RECT"⟩, .ofList [("corner", ⟨⟨"POINT"⟩, some 0⟩)])]
      highLevel := .ofList [
        (⟨"AddressWidth64Bit"⟩, .ofList [(⟨"BOOL"⟩, ⟨"BYTE"⟩), (⟨"HANDLE"⟩, ⟨"uint64_t"⟩),
          (⟨"HWND"⟩, ⟨"HANDLE"⟩)])]
      backing := (desktop.document.backing.erase ⟨"uint32_t"⟩).insert ⟨"BYTE"⟩ (.int 1) }
  width := ⟨"AddressWidth64Bit"⟩
  aliases := .ofList [(⟨"BOOL"⟩, ⟨"BYTE"⟩), (⟨"HANDLE"⟩, ⟨"uint64_t"⟩), (⟨"HWND"⟩, ⟨"HANDLE"⟩)]
  bound := by decide

/-- The symbols that the function leads to. Its structures stand for handles, so the handle type is
one of them. -/
def desktopSymbols : List Symbol :=
  [⟨"HANDLE"⟩, ⟨"HWND"⟩, ⟨"LONG"⟩, ⟨"POINT"⟩, ⟨"RECT"⟩, ⟨"uint64_t"⟩]

theorem desktop_agree {symbol : Symbol} (relevant : desktop.Relevant moveWindow symbol) :
    desktop.AgreeOn desktopGrown symbol := by
  have member : symbol ∈ desktopSymbols :=
    relevant.mem_of_closed (by decide) (by decide) (by decide)
  have structures : desktopSymbols.map desktop.document.structures.find? =
      desktopSymbols.map desktopGrown.document.structures.find? := by decide
  have targets : desktopSymbols.map desktop.aliases.find? =
      desktopSymbols.map desktopGrown.aliases.find? := by decide
  have kept : symbol ≠ ⟨"BYTE"⟩ ∧ symbol ≠ ⟨"uint32_t"⟩ :=
    (by decide : ∀ name ∈ desktopSymbols, name ≠ ⟨"BYTE"⟩ ∧ name ≠ ⟨"uint32_t"⟩) symbol member
  have backing : desktopGrown.document.backing.find? symbol =
      desktop.document.backing.find? symbol :=
    (Table.find?_insert_of_ne kept.1.symm).trans (Table.find?_erase_of_ne kept.2.symm)
  exact ⟨List.map_inj_left.mp structures symbol member, List.map_inj_left.mp targets symbol member,
    backing.symm⟩

/-- What has been added elsewhere leaves the function as it was. -/
theorem desktop_moveWindow :
    desktop.document.signature? "user32.dll" "MoveWindow" = some moveWindow ∧
    desktopGrown.document.signature? "user32.dll" "MoveWindow" = some moveWindow ∧
    (∀ symbol, desktop.Relevant moveWindow symbol → desktop.AgreeOn desktopGrown symbol) ∧
    desktop.document.describe "user32.dll" "MoveWindow" "AddressWidth64Bit" =
      desktopGrown.document.describe "user32.dll" "MoveWindow" "AddressWidth64Bit" := by
  have agree (symbol : Symbol) (relevant : desktop.Relevant moveWindow symbol) :=
    desktop_agree relevant
  exact ⟨rfl, rfl, agree, describe_congr desktop.document desktopGrown.document
    ⟨"AddressWidth64Bit"⟩ desktop.aliases desktopGrown.aliases desktop.bound desktopGrown.bound
    "user32.dll" "MoveWindow" moveWindow rfl rfl fun symbol relevant =>
      ⟨(agree symbol relevant).structures, (agree symbol relevant).aliases,
        (agree symbol relevant).backing⟩⟩

end Document
end CallSchema
