import CallSchema.Proofs.Unfolding

/-!
What an error blames. Of all that is wrong with the types of a function the first is told that is
met on the way through its declarations, where fields come before the structure that holds them.
`Blames` says what can be told: a structure contains itself, or a type has no size, for just the
reason given. Either way the function reaches the type that is blamed
(`functionParameters_faithful`).
-/
namespace CallSchema
open Relation

/-- What has fields is a structure. -/
theorem Document.HasField.structured {document : Document} {holder type : Symbol}
    (held : document.HasField holder type) : document.structures.contains holder := by
  obtain ⟨fields, _, _, bound, _⟩ := held
  exact Table.contains_iff.mpr ⟨fields, bound⟩

namespace Resolver
variable {resolver : Resolver} {declaration : Declaration} {signature : Signature}
  {module function name : String} {type : Symbol} {offset : UInt64} {levels : Nat}
  {entered : List Symbol} {error : ResolveError}

/-- The error has its reason in a type that the given one leads to through fields, or is: that one
contains itself, or it has no size for the same reason. -/
inductive Blames (resolver : Resolver) (type : Symbol) : ResolveError → Prop where
  | recursive {name : Symbol} (leads : ReflTransGen resolver.document.HasField type name)
      (ring : TransGen resolver.document.HasField name name) :
      Blames resolver type (.recursiveStructure name)
  | unsized {part : Symbol} {error : ResolveError}
      (leads : ReflTransGen resolver.document.HasField type part)
      (failed : resolver.size part = .error error) : Blames resolver type error

/-- What is to blame in a field's type is to blame in the structure around it. -/
theorem Blames.holder {holder : Symbol} (held : resolver.document.HasField holder type)
    (blames : resolver.Blames type error) : resolver.Blames holder error := by
  cases blames with
  | recursive leads ring => exact .recursive (.head held leads) ring
  | unsized leads failed => exact .unsized (.head held leads) failed

/-- Sizes know nothing of structures that contain themselves. -/
theorem size_ne_recursiveStructure (resolver : Resolver) (type name : Symbol) :
    resolver.size type ≠ .error (.recursiveStructure name) := by
  intro failed
  have answers := resolver.basicType_answers type
  rw [Resolver.size] at failed
  generalize resolver.basicType type = answer at answers failed
  cases answers with
  | backing =>
    dsimp only at failed
    split at failed
    · cases failed
    · split at failed <;> cases failed
  | unresolved | endless => cases failed

/-- Where the fields have been laid out, what fails is the size. -/
theorem size_of_layoutWith {fields : List Parameter}
    (failed : resolver.layoutWith name type offset fields = .error error) :
    resolver.size type = .error error := by
  rcases bind_eq_error_iff.mp failed with unresolved | ⟨basic, -, rest⟩
  · rw [Resolver.size, unresolved]
  · rcases bind_eq_error_iff.mp rest with unsized | ⟨size, -, last⟩
    · exact unsized
    · cases last

/-- A layout that fails blames a type that the declaration leads to. The induction is on the levels;
of a structure that is entered `Enclosed` knows that it contains itself. -/
theorem blames_of_layoutOf
    (enclosed : resolver.document.Enclosed levels entered declaration.type)
    (failed : resolver.layoutOf levels entered declaration = .error error) :
    resolver.Blames declaration.type error := by
  induction levels generalizing entered declaration with
  | zero => exact absurd enclosed.levels_pos (Nat.lt_irrefl 0)
  | succ levels ih =>
    rw [layoutOf_succ] at failed
    split at failed
    · rename_i inside
      cases failed
      exact .recursive .refl (enclosed.around _ inside.2)
    · rename_i outside
      rcases bind_eq_error_iff.mp failed with fields | ⟨fields, -, last⟩
      · obtain ⟨inner, declared, failed⟩ := exists_error_of_mapM fields
        have held := Document.HasField.of_declared declared
        have fresh : declaration.type ∉ entered :=
          fun member => outside ⟨held.structured, member⟩
        exact (ih (enclosed.field fresh held) failed).holder held
      · exact .unsized .refl (size_of_layoutWith last)

/-- A function whose parameters cannot be resolved blames a type that it reaches. -/
theorem blames_of_functionParameters
    (described : resolver.document.signature? module function = some signature)
    (failed : resolver.functionParameters module function = .error error) :
    ∃ type, resolver.document.Reachable signature type ∧ resolver.Blames type error := by
  rw [functionParameters_eq_mapM described] at failed
  obtain ⟨declaration, declared, failed⟩ := exists_error_of_mapM failed
  exact ⟨declaration.type, Document.reachable_iff.mpr ⟨declaration, declared, .refl⟩,
    blames_of_layoutOf (.start resolver.document declaration.type) failed⟩

/-- **Errors are faithful.** If the parameters of a function are refused because a structure
contains itself, then the function reaches this structure, and it leads back to itself through
fields. If they are refused with another error, this is the error of the size of a type that the
function reaches. A function that reaches a structure which contains itself is always refused,
whatever the width, its aliases and the sizes are. -/
theorem functionParameters_faithful (resolver : Resolver) (module function : String)
    (signature : Signature)
    (described : resolver.document.signature? module function = some signature) :
    (∀ name, resolver.functionParameters module function = .error (.recursiveStructure name) →
      resolver.document.Reachable signature name ∧
        resolver.document.structures.contains name = true ∧
        TransGen resolver.document.HasField name name) ∧
    (∀ error, resolver.functionParameters module function = .error error →
      (∀ name, error ≠ .recursiveStructure name) →
      ∃ type, resolver.document.Reachable signature type ∧ resolver.size type = .error error) ∧
    ∀ name, resolver.document.Reachable signature name →
      TransGen resolver.document.HasField name name →
      ∃ error, resolver.functionParameters module function = .error error := by
  refine ⟨fun name failed => ?_, fun error failed other => ?_, fun name reachable ring => ?_⟩
  · obtain ⟨type, reachable, blames⟩ := blames_of_functionParameters described failed
    cases blames with
    | recursive leads ring =>
      obtain ⟨part, held, -⟩ := TransGen.head'_iff.mp ring
      exact ⟨reachable.part leads, held.structured, ring⟩
    | unsized _ unsized => exact absurd unsized (resolver.size_ne_recursiveStructure _ name)
  · obtain ⟨type, reachable, blames⟩ := blames_of_functionParameters described failed
    cases blames with
    | recursive => exact absurd rfl (other _)
    | unsized leads unsized => exact ⟨_, reachable.part leads, unsized⟩
  · cases result : resolver.functionParameters module function with
    | error error => exact ⟨error, rfl⟩
    | ok forest =>
      have all := (functionParameters_eq_ok_iff described).mp result
      obtain ⟨inner, field, unfolds, rfl⟩ := exists_unfolds_of_reachable all reachable
      exact absurd ring unfolds.finite

/-- A function that takes a list, whose nodes hold each other, and a handle that nothing defines. -/
def pushEntry : Signature := ⟨some (.ofList [("head", ⟨"SLIST_HEADER"⟩), ("hHeap", handleType)])⟩

/-- The width that the function is described in. -/
def slist : Resolver where
  document :=
    { modules := .ofList [("kernel32.dll", .ofList [("PushEntry", pushEntry)])]
      structures := .ofList [
        (⟨"SLIST_ENTRY"⟩, .ofList [("next", ⟨⟨"SLIST_LINK"⟩, some 0⟩)]),
        (⟨"SLIST_HEADER"⟩, .ofList [("depth", ⟨⟨"WORD"⟩, some 0⟩),
          ("first", ⟨⟨"SLIST_ENTRY"⟩, some 8⟩)]),
        (⟨"SLIST_LINK"⟩, .ofList [("entry", ⟨⟨"SLIST_ENTRY"⟩, some 0⟩)])]
      highLevel := .ofList [(⟨"AddressWidth64Bit"⟩, .empty)]
      backing := .ofList [(⟨"WORD"⟩, .int 2)] }
  width := ⟨"AddressWidth64Bit"⟩
  aliases := .empty
  bound := by decide

/-- The error names the entry, which the header leads to and which comes back to itself, and not the
header, which does not. -/
theorem slist_pushEntry :
    slist.document.signature? "kernel32.dll" "PushEntry" = some pushEntry ∧
    slist.functionParameters "kernel32.dll" "PushEntry" =
      .error (.recursiveStructure ⟨"SLIST_ENTRY"⟩) ∧
    slist.document.Reachable pushEntry ⟨"SLIST_ENTRY"⟩ ∧
    TransGen slist.document.HasField ⟨"SLIST_ENTRY"⟩ ⟨"SLIST_ENTRY"⟩ := by
  have described : slist.document.signature? "kernel32.dll" "PushEntry" = some pushEntry := rfl
  have failed : slist.functionParameters "kernel32.dll" "PushEntry" =
      .error (.recursiveStructure ⟨"SLIST_ENTRY"⟩) := rfl
  obtain ⟨recursive, -⟩ :=
    functionParameters_faithful slist "kernel32.dll" "PushEntry" pushEntry described
  obtain ⟨reachable, -, ring⟩ := recursive ⟨"SLIST_ENTRY"⟩ failed
  exact ⟨described, failed, reachable, ring⟩

end Resolver
end CallSchema
