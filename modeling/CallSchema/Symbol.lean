import CallSchema.Table

/-!
The two kinds of names that carry meaning of their own: symbols, which name types, and address
widths, which name the alias tables. Finite sets of symbols are kept in order.
-/
namespace CallSchema

/-- The name of a type: of a structure, an alias or a backing type. -/
structure Symbol where
  name : String
  deriving DecidableEq

/-- The name of an alias table, such as `AddressWidth64Bit`. -/
structure AddressWidth where
  name : String
  deriving DecidableEq

instance : Inhabited Symbol := ⟨⟨""⟩⟩

instance : Named Symbol where
  text := Symbol.name
  text_injective {a b} same := by cases a; cases b; cases same; rfl

instance : Named AddressWidth where
  text := AddressWidth.name
  text_injective {a b} same := by cases a; cases b; cases same; rfl

/-- A finite set of symbols, listed in the order of their names. -/
structure SymbolSet where
  symbols : List Symbol
  sorted : symbols.Pairwise fun a b => a.name < b.name

namespace SymbolSet

instance : DecidableEq SymbolSet := fun a b =>
  if same : a.symbols = b.symbols then
    .isTrue (by cases a; cases b; cases same; rfl)
  else
    .isFalse fun equal => same (congrArg symbols equal)

/-- The set without members. -/
def empty : SymbolSet := ⟨[], .nil⟩

instance : Inhabited SymbolSet := ⟨empty⟩

/-- Puts a symbol at its place in a sorted list that may hold it already. -/
def place (symbol : Symbol) : List Symbol → List Symbol
  | [] => [symbol]
  | head :: rest =>
    if symbol.name < head.name then symbol :: head :: rest
    else if symbol = head then head :: rest
    else head :: place symbol rest

/-- Placing adds the symbol and nothing else. -/
theorem mem_place {symbol other : Symbol} {symbols : List Symbol} :
    other ∈ place symbol symbols ↔ other = symbol ∨ other ∈ symbols := by
  induction symbols with
  | nil => simp [place]
  | cons head rest ih =>
    rw [place]
    split
    · simp
    · split
      · rename_i same
        simp [same]
      · simp [ih, or_left_comm]

/-- Placing keeps the order. -/
theorem sorted_place (symbol : Symbol) {symbols : List Symbol}
    (sorted : symbols.Pairwise fun a b => a.name < b.name) :
    (place symbol symbols).Pairwise fun a b => a.name < b.name := by
  induction symbols with
  | nil => exact List.pairwise_singleton ..
  | cons head rest ih =>
    have above := (List.pairwise_cons.mp sorted).1
    have tail := (List.pairwise_cons.mp sorted).2
    rw [place]
    split
    · rename_i before
      refine List.pairwise_cons.mpr ⟨fun other member => ?_, sorted⟩
      rcases List.mem_cons.mp member with same | member
      · exact same ▸ before
      · exact String.lt_trans before (above other member)
    · split
      · exact sorted
      · rename_i notBefore different
        refine List.pairwise_cons.mpr ⟨fun other member => ?_, ih tail⟩
        rcases mem_place.mp member with same | member
        · refine same ▸ String.not_le.mp fun le => different (Named.text_injective ?_)
          exact String.le_antisymm le (String.not_lt.mp notBefore)
        · exact above other member

/-- Adds a symbol. -/
def insert (set : SymbolSet) (symbol : Symbol) : SymbolSet :=
  ⟨place symbol set.symbols, sorted_place symbol set.sorted⟩

/-- The set of a list's members. -/
def ofList (symbols : List Symbol) : SymbolSet := symbols.foldl insert empty

/-- Whether a symbol is a member. -/
def contains (set : SymbolSet) (symbol : Symbol) : Bool := decide (symbol ∈ set.symbols)

instance : Membership Symbol SymbolSet := ⟨fun set symbol => symbol ∈ set.symbols⟩

/-- The members that pass a test. -/
def filter (set : SymbolSet) (keep : Symbol → Bool) : SymbolSet :=
  ⟨set.symbols.filter keep, set.sorted.filter _⟩

/-- The members of both sets. -/
def inter (a b : SymbolSet) : SymbolSet := a.filter b.contains

/-- Whether there is no member. -/
def isEmpty (set : SymbolSet) : Bool := set.symbols.isEmpty

end SymbolSet

/-- The bound names of a table of symbols, as a set. -/
def Table.symbols {β : Type} (table : Table Symbol β) : SymbolSet :=
  ⟨table.names, List.pairwise_map.mpr table.sorted⟩

end CallSchema
