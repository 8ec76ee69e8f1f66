import CallSchema.Proofs.Unfolding

/-!
Sizes next to backing types. The size of a symbol goes over the way to its backing type a second
time and then looks that up in the document. Where a backing type has been found the look-up cannot
fail, so a size is an error of the search or is told by the backing type alone (`size_eq`). Wherever
the parameters of a function show two backing types that are the same, their sizes are, however deep
in structures they stand (`size_exact`).
-/
namespace CallSchema

/-- A parameter of the list, or a field of one that occurs among them. -/
inductive Parameter.Occurs (forest : List Parameter) : Parameter → Prop where
  | listed {node : Parameter} (listed : node ∈ forest) : Occurs forest node
  | field {holder node : Parameter} (occurs : Occurs forest holder)
      (listed : node ∈ holder.fields) : Occurs forest node

/-- A value is no size exactly if it is, tags aside, no whole number that fits. -/
theorem Yaml.Value.natural?_eq_none_iff {value : Yaml.Value} : value.natural? = none ↔
    ∀ number : Int, 0 ≤ number → number < UInt64.size → value.untagged ≠ .int number := by
  constructor
  · intro none number lower upper whole
    obtain ⟨natural, rfl⟩ := Int.eq_ofNat_of_zero_le lower
    have fits : natural < UInt64.size := Int.ofNat_lt.mp upper
    have size : value.natural? = some (UInt64.ofNat natural) := by
      rw [natural?_eq_some_iff, UInt64.toNat_ofNat_of_lt' fits]
      exact whole
    rw [none] at size
    cases size
  · intro never
    cases said : value.natural? with
    | none => rfl
    | some size =>
      have fits : (size.toNat : Int) < UInt64.size := Int.ofNat_lt.mpr size.toNat_lt_size
      exact absurd (natural?_eq_some_iff.mp said) (never _ (Int.natCast_nonneg _) fits)

namespace Resolver
variable {resolver : Resolver} {symbol first second basic : Symbol} {error : ResolveError}
  {declaration : Declaration} {forest : List Parameter} {node : Parameter}

/-- What has no backing type has no size for the same reason. -/
theorem size_eq_error (failed : resolver.basicType symbol = .error error) :
    resolver.size symbol = .error error := by
  rw [Resolver.size, failed]

/-- The backing type that a symbol stands for is in the document, so nothing but its value can keep
the symbol from having a size. -/
theorem size_eq (stands : resolver.basicType symbol = .ok basic) :
    ∃ value, resolver.document.backing.find? basic = some value ∧ resolver.size symbol =
      value.natural?.elim (.error (.invalidSize basic value.sizeText)) .ok := by
  obtain ⟨-, backed⟩ := basicType_eq_ok_iff.mp stands
  obtain ⟨value, found⟩ := Table.contains_iff.mp backed
  refine ⟨value, found, ?_⟩
  rw [Resolver.size, stands]
  simp only [found]
  cases value.natural? <;> rfl

/-- Symbols that stand for one backing type have one size, or lack one for the same reason. -/
theorem size_eq_of_basicType (stands : resolver.basicType first = .ok basic)
    (standsToo : resolver.basicType second = .ok basic) :
    resolver.size first = resolver.size second := by
  obtain ⟨value, found, sized⟩ := size_eq stands
  obtain ⟨other, foundToo, sizedToo⟩ := size_eq standsToo
  obtain rfl : value = other := Option.some.inj (found.symm.trans foundToo)
  rw [sized, sizedToo]

/-- Whatever occurs in what declarations unfold to is what some declaration unfolds to. -/
theorem exists_unfolds_of_occurs {declarations : List Declaration}
    (all : List.Forall₂ resolver.Unfolds declarations forest)
    (occurs : Parameter.Occurs forest node) :
    ∃ declaration, resolver.Unfolds declaration node := by
  induction occurs with
  | listed listed =>
    obtain ⟨declaration, -, unfolds⟩ := exists_of_mem_forall₂ all.flip listed
    exact ⟨declaration, unfolds⟩
  | field _ listed ih =>
    obtain ⟨_, ⟨_, _, each⟩⟩ := ih
    obtain ⟨inner, -, unfolds⟩ := exists_of_mem_forall₂ each.flip listed
    exact ⟨inner, unfolds⟩

/-- Each node shows the backing type and the size of one type. -/
theorem Unfolds.shown (unfolds : resolver.Unfolds declaration node) :
    resolver.basicType declaration.type = .ok node.basicType ∧
      resolver.size declaration.type = .ok node.size := by
  cases unfolds with
  | mk stands sized _ => exact ⟨stands, sized⟩

/-- **Sizes and backing types never disagree.** A symbol without a backing type has no size for the
same reason. The backing type of any other symbol is in the document with a value, and the size is
what this value is, tags aside, if that is a whole number from zero to what 64 bits hold. With any
other value it is the backing type that has an invalid size. So symbols that stand for the same
backing type have the same size, and in the parameters of a function nodes that show the same
backing type show the same size. -/
theorem size_exact (resolver : Resolver) :
    (∀ symbol error, resolver.basicType symbol = .error error →
      resolver.size symbol = .error error) ∧
    (∀ symbol basic, resolver.basicType symbol = .ok basic →
      ∃ value, resolver.document.backing.find? basic = some value ∧
        (∀ size : UInt64, resolver.size symbol = .ok size ↔ value.untagged = .int size.toNat) ∧
        ((∀ number : Int, 0 ≤ number → number < UInt64.size → value.untagged ≠ .int number) ↔
          resolver.size symbol = .error (.invalidSize basic value.sizeText)) ∧
        ∀ error, resolver.size symbol = .error error →
          error = .invalidSize basic value.sizeText) ∧
    (∀ first second basic, resolver.basicType first = .ok basic →
      resolver.basicType second = .ok basic → resolver.size first = resolver.size second) ∧
    ∀ module function forest, resolver.functionParameters module function = .ok forest →
      ∀ first second, Parameter.Occurs forest first → Parameter.Occurs forest second →
        first.basicType = second.basicType → first.size = second.size := by
  refine ⟨fun _ _ => size_eq_error, ?_, fun _ _ _ => size_eq_of_basicType, ?_⟩
  · intro symbol basic stands
    obtain ⟨value, found, sized⟩ := size_eq stands
    refine ⟨value, found, ?_⟩
    simp only [← Yaml.Value.natural?_eq_none_iff, ← Yaml.Value.natural?_eq_some_iff, sized]
    cases value.natural? <;> simp
  · intro module function forest ok first second occurs occursToo same
    obtain ⟨signature, described⟩ := exists_signature_of_functionParameters ok
    have all := (functionParameters_eq_ok_iff described).mp ok
    obtain ⟨declaration, unfolds⟩ := exists_unfolds_of_occurs all occurs
    obtain ⟨other, unfoldsToo⟩ := exists_unfolds_of_occurs all occursToo
    obtain ⟨stands, sized⟩ := unfolds.shown
    obtain ⟨standsToo, sizedToo⟩ := unfoldsToo.shown
    have sizes := size_eq_of_basicType (same ▸ stands) standsToo
    exact Except.ok.inj (sized.symm.trans (sizes.trans sizedToo))

end Resolver
end CallSchema
