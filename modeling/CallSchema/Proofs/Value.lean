import CallSchema.Proofs.Result
import CallSchema.Yaml.Value

/-!
Trees read as values. `Node.Denotes` tells without reading which value a tree stands for: nothing is
missing from it, each scalar says something, and no two keys of a mapping are the same. Reading
gives just this value (`Node.value_eq_ok_iff`), so where a node stands in the tree matters for what
a fault says and not for whether there is one.
-/
namespace CallSchema.Yaml
variable {path : Path} {tag : Option Tag} {mark : Mark}

/-! ### What a tree says -/

/-- A value under the name of its node's own tag, if that has one. -/
def labelled (tag : Option Tag) (value : Value) : Value :=
  match tag.bind Tag.label? with
  | none => value
  | some label => .tagged label value

/-- No name is the same as an earlier one. -/
def Distinct (names : List Value) : Prop :=
  names.Pairwise fun earlier later => later.same earlier = false

/-- The node and everything in it is there and says something, no key of a mapping repeats another
one, and together they say the value. -/
inductive Node.Denotes : Node → Value → Prop where
  | reference {target : Node} {value : Value} (denotes : Denotes target value) :
      Denotes (.reference target) value
  | scalar {mark : Mark} {tag : Option Tag} {style : ScalarStyle} {text : String} {value : Value}
      (said : scalarValue? tag style text = some value) :
      Denotes (.scalar mark tag style text) (labelled tag value)
  | sequence {mark : Mark} {tag : Option Tag} {items : List Node} {values : List Value}
      (each : List.Forall₂ Denotes items values) :
      Denotes (.sequence mark tag items) (labelled tag (.sequence values))
  | mapping {mark : Mark} {tag : Option Tag} {entries : List (Node × Node)}
      {pairs : List (Value × Value)}
      (keys : List.Forall₂ Denotes (entries.map Prod.fst) (pairs.map Prod.fst))
      (contents : List.Forall₂ Denotes (entries.map Prod.snd) (pairs.map Prod.snd))
      (distinct : Distinct (pairs.map Prod.fst)) :
      Denotes (.mapping mark tag entries) (labelled tag (.mapping pairs))

/-- The text is in order to its end and is one tree, which says the value; a text without content
says that there is nothing. -/
def Source.Denotes (source : Source) (value : Value) : Prop :=
  source.complete = true ∧
    match source.root with
    | none => value = .null
    | some root => root.Denotes value

/-! ### One node at a time -/

/-- Tags and constructors are put around a result if there is one. -/
theorem withTag_map_eq_ok_iff {α : Type} {read : Except Fault α} {wrap : α → Value}
    {value : Value} : withTag tag (read.map wrap) = .ok value ↔
      ∃ inner, read = .ok inner ∧ labelled tag (wrap inner) = value := by
  rw [withTag]
  simp only [labelled]
  cases tag.bind Tag.label? <;> cases read <;> simp [Except.map]

theorem scalar_value_eq_ok_iff {style : ScalarStyle} {text : String} {value : Value} :
    (Node.scalar mark tag style text).value path = .ok value ↔
      ∃ inner, scalarValue? tag style text = some inner ∧ labelled tag inner = value := by
  rw [Node.value, withTag]
  simp only [labelled]
  cases tag.bind Tag.label? <;> cases scalarValue? tag style text <;> simp [Except.map]

theorem readItems_cons_eq_ok_iff {index : Nat} {item : Node} {rest : List Node}
    {values : List Value} : readItems path index (item :: rest) = .ok values ↔
      ∃ value others, item.value (.index index :: path) = .ok value ∧
        readItems path (index + 1) rest = .ok others ∧ value :: others = values := by
  rw [readItems]
  cases item.value (.index index :: path) with
  | error fault => simp
  | ok value => simp [exceptMap_eq_ok_iff]

theorem readEntries_cons_eq_ok_iff {earlier : List Value} {key value : Node}
    {rest : List (Node × Node)} {entries : List (Value × Value)} :
    readEntries path mark earlier ((key, value) :: rest) = .ok entries ↔
      ∃ name content others, key.value path = .ok name ∧ earlier.any name.same = false ∧
        value.value (key.step :: path) = .ok content ∧
        readEntries path mark (name :: earlier) rest = .ok others ∧
        (name, content) :: others = entries := by
  rw [readEntries]
  constructor
  · intro read
    split at read
    · cases read
    · rename_i name named
      split at read
      · cases read
      · rename_i fresh
        split at read
        · cases read
        · rename_i content held
          obtain ⟨others, remaining, same⟩ := exceptMap_eq_ok_iff.mp read
          exact ⟨name, content, others, named, Bool.not_eq_true _ ▸ fresh, held, remaining, same⟩
  · rintro ⟨name, content, others, named, fresh, held, remaining, rfl⟩
    rw [named]
    dsimp only
    rw [fresh, held, remaining]
    rfl

/-! ### Reading what a tree says -/

/-- No name is the same as an earlier one exactly if the first one comes again neither in the rest
nor in what was there before it. -/
theorem distinct_cons_iff {earlier names : List Value} {name : Value} :
    (earlier.any name.same = false ∧ Distinct names ∧
        ∀ later ∈ names, (name :: earlier).any later.same = false) ↔
      Distinct (name :: names) ∧ ∀ later ∈ name :: names, earlier.any later.same = false := by
  simp only [Distinct, List.pairwise_cons, List.any_cons, Bool.or_eq_false_iff,
    List.forall_mem_cons, forall_and]
  tauto

mutual

/-- A tree is read as the value that it says, wherever it stands. -/
theorem Node.value_eq_ok_iff {path : Path} :
    ∀ {node : Node} {value : Value}, node.value path = .ok value ↔ node.Denotes value
  | .missing, value => by
    rw [Node.value]
    exact iff_of_false nofun nofun
  | .reference target, value => by
    rw [Node.value, Node.value_eq_ok_iff]
    exact ⟨.reference, fun | .reference denotes => denotes⟩
  | .scalar .., value => by
    rw [scalar_value_eq_ok_iff]
    exact ⟨fun ⟨_, said, same⟩ => same ▸ .scalar said, fun | .scalar said => ⟨_, said, rfl⟩⟩
  | .sequence .., value => by
    rw [Node.value, withTag_map_eq_ok_iff]
    simp only [readItems_eq_ok_iff]
    exact ⟨fun ⟨_, each, same⟩ => same ▸ .sequence each,
      fun | .sequence each => ⟨_, each, rfl⟩⟩
  | .mapping .., value => by
    rw [Node.value, withTag_map_eq_ok_iff]
    simp only [readEntries_eq_ok_iff]
    constructor
    · rintro ⟨pairs, ⟨keys, contents, distinct, -⟩, rfl⟩
      exact .mapping keys contents distinct
    · intro denotes
      cases denotes with
      | mapping keys contents distinct =>
        exact ⟨_, ⟨keys, contents, distinct, fun _ _ => rfl⟩, rfl⟩

theorem readItems_eq_ok_iff {path : Path} :
    ∀ {items : List Node} {index : Nat} {values : List Value},
      readItems path index items = .ok values ↔ List.Forall₂ Node.Denotes items values
  | [], index, values => by
    rw [readItems]
    constructor
    · rintro ⟨⟩
      exact .nil
    · rintro ⟨⟩
      rfl
  | item :: rest, index, values => by
    rw [readItems_cons_eq_ok_iff]
    constructor
    · rintro ⟨value, others, first, remaining, rfl⟩
      exact .cons (Node.value_eq_ok_iff.mp first) (readItems_eq_ok_iff.mp remaining)
    · intro each
      cases each with
      | cons first remaining =>
        exact ⟨_, _, Node.value_eq_ok_iff.mpr first, readItems_eq_ok_iff.mpr remaining, rfl⟩

/-- Entries are read as what they say. Their names are neither among those read before nor the same
as each other. -/
theorem readEntries_eq_ok_iff {path : Path} {mark : Mark} :
    ∀ {entries : List (Node × Node)} {earlier : List Value} {pairs : List (Value × Value)},
      readEntries path mark earlier entries = .ok pairs ↔
        List.Forall₂ Node.Denotes (entries.map Prod.fst) (pairs.map Prod.fst) ∧
        List.Forall₂ Node.Denotes (entries.map Prod.snd) (pairs.map Prod.snd) ∧
        Distinct (pairs.map Prod.fst) ∧
        ∀ name ∈ pairs.map Prod.fst, earlier.any name.same = false
  | [], earlier, pairs => by
    rw [readEntries]
    constructor
    · rintro ⟨⟩
      exact ⟨.nil, .nil, .nil, nofun⟩
    · rintro ⟨keys, -⟩
      cases pairs with
      | nil => rfl
      | cons => cases keys
  | (key, value) :: rest, earlier, pairs => by
    rw [readEntries_cons_eq_ok_iff]
    simp only [Node.value_eq_ok_iff, readEntries_eq_ok_iff]
    constructor
    · rintro ⟨name, content, others, named, fresh, held, ⟨keys, contents, distinct, apart⟩, rfl⟩
      have all := distinct_cons_iff.mp ⟨fresh, distinct, apart⟩
      exact ⟨.cons named keys, .cons held contents, all⟩
    · rintro ⟨keys, contents, all⟩
      cases pairs with
      | nil => cases keys
      | cons pair others =>
        obtain ⟨name, content⟩ := pair
        obtain ⟨fresh, distinct, apart⟩ := distinct_cons_iff.mpr all
        cases keys with
        | cons named keys =>
          cases contents with
          | cons held contents =>
            exact ⟨name, content, others, named, fresh, held, ⟨keys, contents, distinct, apart⟩,
              rfl⟩

end

/-- A text is read as the value that it says. -/
theorem Source.value_eq_ok_iff {source : Source} {value : Value} :
    source.value = .ok value ↔ source.Denotes value := by
  rw [Source.value, Source.Denotes]
  cases source.root with
  | none => cases source.complete <;> simp [eq_comm]
  | some root =>
    dsimp only
    rw [← @Node.value_eq_ok_iff [] root value]
    cases root.value [] <;> cases source.complete <;> simp

/-- The node denotes some value, so it is read as that wherever it stands. -/
def Node.Readable (node : Node) : Prop := ∃ value, node.Denotes value

end CallSchema.Yaml
