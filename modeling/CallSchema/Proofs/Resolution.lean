import CallSchema.Proofs.AliasRing
import CallSchema.Resolution

/-!
What a symbol stands for, without a bound on the search. `Answers` says what each answer for a
symbol means in terms of where `Resolver.next` leads, and `basicType_eq_iff` says that the search
gives exactly the answer that this calls for. Rings of aliases are found by a walk of their own,
which stops at other symbols and remembers the visited ones at another time; where aliases and other
definitions are kept apart, both agree.
-/
namespace CallSchema
open Walk

/-- A value is a size if it is, tags aside, a whole number that fits. -/
theorem Yaml.Value.natural?_eq_some_iff {value : Yaml.Value} {size : UInt64} :
    value.natural? = some size ↔ value.untagged = .int size.toNat := by
  rw [natural?]
  split
  · rename_i number whole
    rw [whole]
    by_cases fits : number < UInt64.size
    · rw [if_pos fits, Option.some.injEq, Yaml.Value.int.injEq]
      constructor
      · rintro rfl
        rw [UInt64.toNat_ofNat_of_lt' fits]
        rfl
      · intro same
        rw [Int.ofNat_inj.mp same, UInt64.ofNat_toNat]
    · have large : ¬ (number : Int) = size.toNat := by
        have := size.toNat_lt_size
        omega
      simp [fits, large]
  · rename_i other
    constructor
    · rintro ⟨⟩
    · exact fun whole => absurd whole (other size.toNat)

namespace Resolver
variable {resolver : Resolver} {asked symbol last basic : Symbol}
  {answer : Except ResolveError Symbol} {steps : Nat} {trail : List Symbol}

/-! ### What stands next -/

theorem next_backing (backing : resolver.document.backing.contains symbol) :
    resolver.next symbol = none := if_pos backing

theorem next_structure (unbacked : ¬ resolver.document.backing.contains symbol)
    (structured : resolver.document.structures.contains symbol) :
    resolver.next symbol = some handleType := by
  rw [next, if_neg unbacked, if_pos structured]

theorem next_alias (unbacked : ¬ resolver.document.backing.contains symbol)
    (unstructured : ¬ resolver.document.structures.contains symbol) :
    resolver.next symbol = resolver.aliases.find? symbol := by
  rw [next, if_neg unbacked, if_neg unstructured]

/-- The symbols that another one may stand in the place of. -/
def passable (resolver : Resolver) : List Symbol :=
  resolver.document.structures.names ++ resolver.aliases.names

theorem length_passable : resolver.passable.length =
    resolver.document.structures.size + resolver.aliases.size := by
  simp [passable, Table.length_names]

theorem counted (resolver : Resolver) :
    ∀ symbol, (resolver.next symbol).isSome → symbol ∈ resolver.passable := by
  intro symbol bound
  rw [next] at bound
  split at bound
  · contradiction
  · split at bound
    · rename_i structured
      exact List.mem_append_left _ (Table.mem_names.mpr structured)
    · exact List.mem_append_right _ (Table.mem_names.mpr bound)

/-! ### What an answer means -/

/-- The answers that where the symbols in a symbol's place lead to calls for; the symbol asked for
is named in the answer to a search that never ends. -/
inductive Answers (resolver : Resolver) (asked symbol : Symbol) :
    Except ResolveError Symbol → Prop where
  | backing {basic : Symbol} (ends : EndsAt resolver.next symbol basic)
      (backed : resolver.document.backing.contains basic) :
      Answers resolver asked symbol (.ok basic)
  | unresolved {last : Symbol} (ends : EndsAt resolver.next symbol last)
      (unbacked : ¬ resolver.document.backing.contains last) :
      Answers resolver asked symbol (.error (.unresolvedSymbol last resolver.width))
  | endless (never : NeverEnds resolver.next symbol) :
      Answers resolver asked symbol (.error (.aliasCycle asked resolver.width))

/-- The symbol that stands next has the same answers. -/
theorem Answers.step {target : Symbol} (edge : resolver.next symbol = some target)
    (answers : Answers resolver asked target answer) : Answers resolver asked symbol answer := by
  cases answers with
  | backing ends backed => exact .backing (ends.step edge) backed
  | unresolved ends unbacked => exact .unresolved (ends.step edge) unbacked
  | endless never => exact .endless (never.step edge)

/-- There is one answer only. -/
theorem Answers.unique {other : Except ResolveError Symbol}
    (first : Answers resolver asked symbol answer) (second : Answers resolver asked symbol other) :
    answer = other := by
  cases first with
  | backing ends backed =>
    cases second with
    | backing found _ => rw [ends.unique found]
    | unresolved found unbacked => exact absurd (ends.unique found ▸ backed) unbacked
    | endless never => exact absurd never ends.not_neverEnds
  | unresolved ends unbacked =>
    cases second with
    | backing found backed => exact absurd (found.unique ends ▸ backed) unbacked
    | unresolved found _ => rw [ends.unique found]
    | endless never => exact absurd never ends.not_neverEnds
  | endless never =>
    cases second with
    | backing ends _ => exact absurd never ends.not_neverEnds
    | unresolved ends _ => exact absurd never ends.not_neverEnds
    | endless _ => rfl

/-- The search gives the answer that is called for. The induction is on the steps; the trail bounds
them, and a symbol that comes back closes a ring. -/
theorem follow_answers (track : Trail resolver.next resolver.passable steps trail symbol) :
    Answers resolver asked symbol (resolver.follow asked steps trail symbol) := by
  induction steps generalizing trail symbol with
  | zero => exact absurd (track.steps_pos resolver.counted) (Nat.lt_irrefl 0)
  | succ steps ih =>
    rw [follow]
    split
    · rename_i backed
      exact .backing (.here (next_backing backed)) backed
    · rename_i unbacked
      split
      · rename_i passed
        exact .endless (neverEnds_of_ring .refl (track.leads passed))
      · rename_i fresh
        split
        · rename_i target edge
          exact (ih (track.extend fresh edge)).step edge
        · rename_i none
          exact .unresolved (.here none) unbacked

theorem basicType_answers (resolver : Resolver) (symbol : Symbol) :
    Answers resolver symbol symbol (resolver.basicType symbol) := by
  rw [basicType, ← length_passable]
  exact follow_answers (.start resolver.next resolver.passable symbol)

/-- A symbol has exactly the answer that is called for. -/
theorem basicType_eq_iff :
    resolver.basicType symbol = answer ↔ Answers resolver symbol symbol answer :=
  ⟨fun same => same ▸ basicType_answers resolver symbol, (basicType_answers resolver symbol).unique⟩

/-- A search has the same answer where the same symbols stand next all along and end at backing
types alike. -/
theorem basicType_eq_of_next {first second : Resolver} (width : first.width = second.width)
    (edges : ∀ passed, Reaches first.next symbol passed → second.next passed = first.next passed)
    (backing : ∀ passed, Reaches first.next symbol passed →
      first.document.backing.contains passed = second.document.backing.contains passed) :
    first.basicType symbol = second.basicType symbol := by
  refine basicType_eq_iff.mpr ?_
  have answers := second.basicType_answers symbol
  generalize second.basicType symbol = answer at answers ⊢
  cases answers with
  | backing ends backed =>
    have ends := (endsAt_congr edges).mp ends
    exact .backing ends (backing _ ends.1 ▸ backed)
  | unresolved ends unbacked =>
    have ends := (endsAt_congr edges).mp ends
    exact width ▸ .unresolved ends (backing _ ends.1 ▸ unbacked)
  | endless never => exact width ▸ .endless ((neverEnds_congr edges).mp never)

theorem basicType_eq_ok_iff : resolver.basicType symbol = .ok basic ↔
    EndsAt resolver.next symbol basic ∧ resolver.document.backing.contains basic := by
  rw [basicType_eq_iff]
  constructor
  · rintro ⟨⟩
    exact ⟨‹_›, ‹_›⟩
  · exact fun ⟨ends, backed⟩ => .backing ends backed

theorem basicType_eq_unresolved_iff {width : AddressWidth} :
    resolver.basicType symbol = .error (.unresolvedSymbol last width) ↔
      width = resolver.width ∧ EndsAt resolver.next symbol last ∧
        ¬ resolver.document.backing.contains last := by
  rw [basicType_eq_iff]
  constructor
  · rintro ⟨⟩
    exact ⟨rfl, ‹_›, ‹_›⟩
  · rintro ⟨rfl, ends, unbacked⟩
    exact .unresolved ends unbacked

theorem basicType_eq_aliasCycle_iff {width : AddressWidth} :
    resolver.basicType symbol = .error (.aliasCycle asked width) ↔
      asked = symbol ∧ width = resolver.width ∧ NeverEnds resolver.next symbol := by
  rw [basicType_eq_iff]
  constructor
  · rintro ⟨⟩
    exact ⟨rfl, rfl, ‹_›⟩
  · rintro ⟨rfl, rfl, never⟩
    exact .endless never

/-! ### Sizes -/

/-- A symbol has the size that the document gives to the backing type it stands for. -/
theorem size_eq_ok_iff {size : UInt64} : resolver.size symbol = .ok size ↔
    ∃ basic value, resolver.basicType symbol = .ok basic ∧
      resolver.document.backing.find? basic = some value ∧ value.natural? = some size := by
  rw [Resolver.size]
  cases resolver.basicType symbol with
  | error => simp
  | ok basic =>
    cases found : resolver.document.backing.find? basic with
    | none => simp [found]
    | some value => cases whole : value.natural? <;> simp [found, whole]

/-! ### Aliases that are kept apart -/

/-- The aliases of the width are kept apart from other definitions: no alias has the name of a
backing type or of a structure, and none leads to a structure. -/
structure Separate (resolver : Resolver) : Prop where
  name_unbacked : ∀ name, resolver.aliases.contains name →
    ¬ resolver.document.backing.contains name
  name_unstructured : ∀ name, resolver.aliases.contains name →
    ¬ resolver.document.structures.contains name
  target_unstructured : ∀ name target, resolver.aliases.find? name = some target →
    ¬ resolver.document.structures.contains target

/-- From an alias on, what stands next is told by the aliases alone. -/
theorem Separate.next_eq (separate : resolver.Separate) (bound : resolver.aliases.contains symbol)
    {passed : Symbol} (reaches : Reaches resolver.aliases.find? symbol passed) :
    resolver.next passed = resolver.aliases.find? passed := by
  have unstructured : ¬ resolver.document.structures.contains passed := by
    rcases reaches.cases_tail with rfl | ⟨name, _, edge⟩
    · exact separate.name_unstructured _ bound
    · exact separate.target_unstructured name passed edge
  by_cases backed : resolver.document.backing.contains passed
  · rw [next_backing backed, Table.find?_eq_none_iff.mpr]
    exact fun named => separate.name_unbacked passed named backed
  · exact next_alias backed unstructured

theorem Separate.endsAt_iff (separate : resolver.Separate)
    (bound : resolver.aliases.contains symbol) :
    EndsAt resolver.next symbol last ↔ EndsAt resolver.aliases.find? symbol last :=
  endsAt_congr fun _ => separate.next_eq bound

theorem Separate.neverEnds_iff (separate : resolver.Separate)
    (bound : resolver.aliases.contains symbol) :
    NeverEnds resolver.next symbol ↔ NeverEnds resolver.aliases.find? symbol :=
  neverEnds_congr fun _ => separate.next_eq bound

/-- **Both searches agree.** Where aliases are kept apart from other definitions, a ring is found
from an alias exactly if the search for its backing type does not end, and where the walk along the
aliases stops, the search for the backing type does. -/
theorem ring_iff_aliasCycle (resolver : Resolver) (separate : resolver.Separate) (symbol : Symbol)
    (bound : resolver.aliases.contains symbol) :
    ((∃ ring, resolver.aliases.ring? resolver.width symbol = some ring) ↔
      resolver.basicType symbol = .error (.aliasCycle symbol resolver.width)) ∧
    ∀ last, resolver.aliases.walk symbol = .stops last →
      resolver.basicType symbol =
        if resolver.document.backing.contains last then .ok last
        else .error (.unresolvedSymbol last resolver.width) := by
  constructor
  · rw [← Option.isSome_iff_exists, AliasTable.ring?_isSome_iff, basicType_eq_aliasCycle_iff,
      separate.neverEnds_iff bound]
    simp
  · intro last stops
    have ends := (separate.endsAt_iff bound).mpr (AliasTable.walk_eq_stops_iff.mp stops)
    split
    · rename_i backed
      exact basicType_eq_ok_iff.mpr ⟨ends, backed⟩
    · rename_i unbacked
      exact basicType_eq_unresolved_iff.mpr ⟨rfl, ends, unbacked⟩

/-- A width with a ring, a name that leads into it, and a name that leads to nothing. -/
def ringed : Resolver where
  document :=
    { modules := .empty
      structures := .ofList [(⟨"POINT"⟩, .ofList [("x", ⟨⟨"LONG"⟩, some 0⟩)])]
      highLevel := .ofList [(⟨"AddressWidth32Bit"⟩, .ofList [(⟨"A"⟩, ⟨"B"⟩), (⟨"B"⟩, ⟨"A"⟩),
        (⟨"TAIL"⟩, ⟨"A"⟩), (⟨"HWND"⟩, ⟨"HANDLE"⟩), (⟨"BOOL"⟩, ⟨"LONG"⟩)])]
      backing := .ofList [(⟨"LONG"⟩, .int 4)] }
  width := ⟨"AddressWidth32Bit"⟩
  aliases := .ofList [(⟨"A"⟩, ⟨"B"⟩), (⟨"B"⟩, ⟨"A"⟩), (⟨"TAIL"⟩, ⟨"A"⟩), (⟨"HWND"⟩, ⟨"HANDLE"⟩),
    (⟨"BOOL"⟩, ⟨"LONG"⟩)]
  bound := by decide

theorem ringed_separate : ringed.Separate where
  name_unbacked name named :=
    have all : ∀ name ∈ ringed.aliases.names, ¬ ringed.document.backing.contains name := by decide
    all name (Table.mem_names.mpr named)
  name_unstructured name named :=
    have all : ∀ name ∈ ringed.aliases.names, ¬ ringed.document.structures.contains name := by
      decide
    all name (Table.mem_names.mpr named)
  target_unstructured name target edge :=
    have all : ∀ entry ∈ ringed.aliases.entries,
        ¬ ringed.document.structures.contains entry.2 := by decide
    all (name, target) (Table.find?_eq_some_iff.mp edge)

/-- From outside the ring the search does not end, and what an alias leads to may be missing. -/
theorem ringed_tail : ringed.Separate ∧
    (ringed.aliases.contains ⟨"TAIL"⟩ = true ∧
      ringed.basicType ⟨"TAIL"⟩ = .error (.aliasCycle ⟨"TAIL"⟩ ringed.width)) ∧
    (ringed.aliases.contains ⟨"HWND"⟩ = true ∧
      ringed.basicType ⟨"HWND"⟩ = .error (.unresolvedSymbol ⟨"HANDLE"⟩ ringed.width)) := by
  refine ⟨ringed_separate, ⟨by decide, ?_⟩, by decide, ?_⟩
  · exact (ring_iff_aliasCycle ringed ringed_separate ⟨"TAIL"⟩ (by decide)).1.mp
      ⟨⟨ringed.width, ⟨"TAIL"⟩, ⟨"B"⟩, ⟨"A"⟩, [⟨"TAIL"⟩, ⟨"A"⟩, ⟨"B"⟩, ⟨"A"⟩]⟩, by decide⟩
  · exact (ring_iff_aliasCycle ringed ringed_separate ⟨"HWND"⟩ (by decide)).2 ⟨"HANDLE"⟩ (by decide)

end Resolver
end CallSchema
