import CallSchema.Proofs.Blame

/-!
The course of a layout, call by call. A structure is entered, its fields are laid out one after the
other, and it is left again; any of this may fail, at any depth. `Resolver.Runs` is the course of a
call without a bound on its depth: what the call gives, which structures are entered when it ends,
and which calls it makes. A call is sound if it finds different structures of the document entered.
Such a call always comes to an end, in one way only, and leaves entered what it found entered. The
calls inside it are sound as well, and they are nested no deeper than there are structures, and one
more. The computations of layouts, which are given levels, take the same course (`stack_restored`).
-/
namespace CallSchema
open Relation

/-! ### Calls -/

namespace Layout

/-- What is done in the course of a layout: a declaration is laid out, a structure is entered and
its fields are laid out, or declarations are laid out one after the other. -/
inductive Call where
  | declaration (declaration : Declaration)
  | fields (name : Symbol) (fields : List Declaration)
  | each (declarations : List Declaration)

/-- What a call gives if it succeeds. -/
abbrev Call.Result : Call → Type
  | .declaration _ => Parameter
  | .fields .. | .each _ => List Parameter

/-- A call with the structures that it finds entered, innermost first. -/
structure Frame where
  call : Call
  entered : List Symbol

namespace Frame
variable {document : Document} {frame inner : Frame}

/-- Whether a declaration is laid out. -/
def declares (frame : Frame) : Bool :=
  match frame.call with
  | .declaration _ => true
  | _ => false

/-- Whether a structure is to be entered. -/
def enters (frame : Frame) : Bool :=
  match frame.call with
  | .fields .. => true
  | _ => false

/-- The structures entered are different ones, and they are the document's. So is a structure that
is to be entered, but it may be one that is entered already. -/
structure Sound (document : Document) (frame : Frame) : Prop where
  distinct : frame.entered.Nodup
  structured : ∀ name ∈ frame.entered, document.structures.contains name
  known : ∀ name fields, frame.call = .fields name fields → document.structures.contains name

/-- No more structures are entered than there are. -/
theorem Sound.length_le (sound : frame.Sound document) :
    frame.entered.length ≤ document.structures.size := by
  rw [← Table.length_names]
  exact sound.distinct.length_le_of_subset fun name member =>
    Table.mem_names.mpr (sound.structured name member)

/-- Nothing is entered where the parameters of a function are laid out. -/
theorem sound_nil (document : Document) (declarations : List Declaration) :
    Sound document ⟨.each declarations, []⟩ := ⟨.nil, nofun, nofun⟩

/-- What a call may make, and what is entered there. -/
inductive Makes (document : Document) : Frame → Frame → Prop where
  | fields {declaration : Declaration} {entered : List Symbol}
      (structured : document.structures.contains declaration.type) :
      Makes document ⟨.declaration declaration, entered⟩
        ⟨.fields declaration.type (document.declarations declaration.type), entered⟩
  | inside {name : Symbol} {fields : List Declaration} {declaration : Declaration}
      {entered : List Symbol} (fresh : name ∉ entered) (listed : declaration ∈ fields) :
      Makes document ⟨.fields name fields, entered⟩ ⟨.declaration declaration, name :: entered⟩
  | item {declarations : List Declaration} {declaration : Declaration} {entered : List Symbol}
      (listed : declaration ∈ declarations) :
      Makes document ⟨.each declarations, entered⟩ ⟨.declaration declaration, entered⟩

/-- A sound call makes sound calls. -/
theorem Makes.sound (makes : Makes document frame inner) (sound : frame.Sound document) :
    inner.Sound document := by
  obtain ⟨distinct, structured, known⟩ := sound
  cases makes with
  | fields holder =>
    refine ⟨distinct, structured, fun name fields same => ?_⟩
    cases same
    exact holder
  | inside fresh =>
    refine ⟨List.nodup_cons.mpr ⟨fresh, distinct⟩, fun name member => ?_, nofun⟩
    rcases List.mem_cons.mp member with rfl | member
    · exact known _ _ rfl
    · exact structured name member
  | item => exact ⟨distinct, structured, nofun⟩

end Frame
end Layout

open Layout

namespace Resolver
variable {resolver : Resolver} {call : Call} {frame inner : Frame} {levels : Nat}
  {entered left : List Symbol} {name : Symbol} {declaration : Declaration}
  {declarations fields : List Declaration} {made : List Frame}

/-! ### The course of a call -/

/-- The call, which finds the structures of the first list entered, ends with the result, leaves
those of the second list entered, and makes the calls that come last, in order. -/
inductive Runs (resolver : Resolver) : (call : Call) → List Symbol →
    Except ResolveError call.Result → List Symbol → List Frame → Prop where
  | plain {declaration : Declaration} {entered : List Symbol}
      (plain : ¬ resolver.document.structures.contains declaration.type) :
      Runs resolver (.declaration declaration) entered
        (resolver.layoutWith declaration.name declaration.type declaration.offset []) entered []
  | structured {declaration : Declaration} {entered left : List Symbol}
      {result : Except ResolveError (List Parameter)} {made : List Frame}
      (structured : resolver.document.structures.contains declaration.type)
      (inside : Runs resolver (.fields declaration.type
        (resolver.document.declarations declaration.type)) entered result left made) :
      Runs resolver (.declaration declaration) entered
        (result >>= resolver.layoutWith declaration.name declaration.type declaration.offset) left
        [⟨.fields declaration.type (resolver.document.declarations declaration.type), entered⟩]
  | again {name : Symbol} {fields : List Declaration} {entered : List Symbol}
      (member : name ∈ entered) :
      Runs resolver (.fields name fields) entered (.error (.recursiveStructure name)) entered []
  | enter {name : Symbol} {fields : List Declaration} {entered left : List Symbol}
      {result : Except ResolveError (List Parameter)} {made : List Frame}
      (fresh : name ∉ entered)
      (inside : Runs resolver (.each fields) (name :: entered) result left made) :
      Runs resolver (.fields name fields) entered result left.tail made
  | done {entered : List Symbol} : Runs resolver (.each []) entered (.ok []) entered []
  | fails {declaration : Declaration} {rest : List Declaration} {entered left : List Symbol}
      {error : ResolveError} {made : List Frame}
      (first : Runs resolver (.declaration declaration) entered (.error error) left made) :
      Runs resolver (.each (declaration :: rest)) entered (.error error) left
        [⟨.declaration declaration, entered⟩]
  | onward {declaration : Declaration} {rest : List Declaration}
      {entered between left : List Symbol} {parameter : Parameter}
      {result : Except ResolveError (List Parameter)} {made others : List Frame}
      (first : Runs resolver (.declaration declaration) entered (.ok parameter) between made)
      (following : Runs resolver (.each rest) between result left others) :
      Runs resolver (.each (declaration :: rest)) entered (result.map (parameter :: ·)) left
        (⟨.declaration declaration, entered⟩ :: others)

/-- A call leaves entered what it found entered, whatever that is and however it ends. -/
theorem Runs.restores {result : Except ResolveError call.Result}
    (runs : resolver.Runs call entered result left made) : left = entered := by
  induction runs with
  | plain | again | done => rfl
  | structured _ _ ih | fails _ ih => exact ih
  | enter _ _ ih => rw [ih, List.tail_cons]
  | onward _ _ first following => exact following.trans first

/-- A call takes one course only. -/
theorem Runs.unique {result other : Except ResolveError call.Result} {last : List Symbol}
    {others : List Frame} (first : resolver.Runs call entered result left made)
    (second : resolver.Runs call entered other last others) :
    other = result ∧ last = left ∧ others = made := by
  induction first generalizing last others with
  | plain plain =>
    cases second with
    | plain => exact ⟨rfl, rfl, rfl⟩
    | structured structured => exact absurd structured plain
  | structured structured _ ih =>
    cases second with
    | plain plain => exact absurd structured plain
    | structured _ inside =>
      obtain ⟨rfl, rfl, -⟩ := ih inside
      exact ⟨rfl, rfl, rfl⟩
  | again member =>
    cases second with
    | again => exact ⟨rfl, rfl, rfl⟩
    | enter fresh => exact absurd member fresh
  | enter fresh _ ih =>
    cases second with
    | again member => exact absurd member fresh
    | enter _ inside =>
      obtain ⟨rfl, rfl, rfl⟩ := ih inside
      exact ⟨rfl, rfl, rfl⟩
  | done =>
    cases second with
    | done => exact ⟨rfl, rfl, rfl⟩
  | fails _ ih =>
    cases second with
    | fails first =>
      obtain ⟨same, rfl, -⟩ := ih first
      cases same
      exact ⟨rfl, rfl, rfl⟩
    | onward first => cases (ih first).1
  | onward _ _ head tail =>
    cases second with
    | fails first => cases (head first).1
    | onward first following =>
      obtain ⟨same, rfl, -⟩ := head first
      cases same
      obtain ⟨rfl, rfl, rfl⟩ := tail following
      exact ⟨rfl, rfl, rfl⟩

/-! ### The calls inside a call -/

/-- A call makes another one on its course. -/
def Calls (resolver : Resolver) (frame inner : Frame) : Prop :=
  ∃ result left made, resolver.Runs frame.call frame.entered result left made ∧ inner ∈ made

/-- Of declarations that are laid out one after the other, each finds entered what the first one
found, since those before it have left it so. -/
theorem Runs.makes {result : Except ResolveError call.Result}
    (runs : resolver.Runs call entered result left made) (member : inner ∈ made) :
    Frame.Makes resolver.document ⟨call, entered⟩ inner := by
  induction runs with
  | plain | again | done => cases member
  | structured structured =>
    obtain rfl := List.mem_singleton.mp member
    exact .fields structured
  | enter fresh _ ih =>
    cases ih member with
    | item listed => exact .inside fresh listed
  | fails =>
    obtain rfl := List.mem_singleton.mp member
    exact .item List.mem_cons_self
  | onward first _ _ ih =>
    obtain rfl := first.restores
    rcases List.mem_cons.mp member with rfl | later
    · exact .item List.mem_cons_self
    · cases ih later with
      | item listed => exact .item (List.mem_cons_of_mem _ listed)

theorem Calls.makes (calls : resolver.Calls frame inner) :
    Frame.Makes resolver.document frame inner := by
  obtain ⟨_, _, _, runs, member⟩ := calls
  exact runs.makes member

/-- All calls inside a sound one are sound. -/
theorem sound_of_calls (sound : frame.Sound resolver.document)
    (reached : ReflTransGen resolver.Calls frame inner) : inner.Sound resolver.document := by
  induction reached with
  | refl => exact sound
  | tail _ calls ih => exact calls.makes.sound ih

/-- Calls that are nested in each other lay out no more declarations than there are structures left
to enter, and one more, and they enter no more structures than that. A structure that is to be
entered takes one off for the declarations inside it, whether that is made use of or not. -/
theorem nesting_le (chain : List Frame) (sound : frame.Sound resolver.document)
    (nested : (frame :: chain).IsChain resolver.Calls) :
    frame.entered.length + (frame :: chain).countP Frame.declares + frame.enters.toNat
        ≤ resolver.document.structures.size + 1 ∧
      frame.entered.length + (frame :: chain).countP Frame.enters
        ≤ resolver.document.structures.size + 1 := by
  induction chain generalizing frame with
  | nil =>
    obtain ⟨call, entered⟩ := frame
    have room : entered.length ≤ resolver.document.structures.size := sound.length_le
    cases call <;> simp [Frame.declares, Frame.enters] <;> omega
  | cons inner chain ih =>
    obtain ⟨calls, nested⟩ := List.isChain_cons_cons.mp nested
    have bounds := ih (calls.makes.sound sound) nested
    cases calls.makes with
    | fields | inside | item =>
      simp only [List.countP_cons, List.length_cons, Frame.declares, Frame.enters, Bool.toNat_true,
        Bool.toNat_false, Bool.false_eq_true, ↓reduceIte] at bounds ⊢
      omega

/-! ### Computations of calls -/

/-- The computation of the layout of a declaration. -/
def layoutComputation (resolver : Resolver) (levels : Nat) (declaration : Declaration) :
    Expanding Parameter :=
  resolver.layout levels declaration.name declaration.type declaration.offset

/-- The computation of a call, in which so many levels are left to declarations. -/
def computation (resolver : Resolver) (levels : Nat) : (call : Call) → Expanding call.Result
  | .declaration declaration => resolver.layoutComputation levels declaration
  | .fields name fields =>
    Expanding.within name (fields.mapM (resolver.layoutComputation levels))
  | .each declarations => declarations.mapM (resolver.layoutComputation levels)

/-- The fields of a structure are computed before what is told of the declaration itself. -/
theorem computation_declaration (resolver : Resolver) (levels : Nat) (declaration : Declaration) :
    resolver.computation (levels + 1) (.declaration declaration) = (do
      let fields ←
        if resolver.document.structures.contains declaration.type then
          resolver.computation levels
            (.fields declaration.type (resolver.document.declarations declaration.type))
        else pure []
      layout.liftExcept
        (resolver.layoutWith declaration.name declaration.type declaration.offset fields)) := by
  simp only [computation, layoutComputation, layout, liftExcept_layoutWith]
  rw [Document.declarations, Table.contains]
  cases resolver.document.structures.find? declaration.type with
  | none => rfl
  | some fields =>
    simp only [List.mapM_map]
    rfl

/-- With so many levels the computation of a call takes the course of the call. -/
def Suffices (resolver : Resolver) (levels : Nat) (frame : Frame) : Prop :=
  ∃ result made,
    Expanding.Steady frame.entered (resolver.computation levels frame.call) result ∧
      resolver.Runs frame.call frame.entered result frame.entered made

theorem suffices_each
    (each : ∀ declaration ∈ declarations,
      resolver.Suffices levels ⟨.declaration declaration, entered⟩) :
    resolver.Suffices levels ⟨.each declarations, entered⟩ := by
  induction declarations with
  | nil => exact ⟨.ok [], [], .ok [], .done⟩
  | cons declaration rest ih =>
    obtain ⟨first, _, firstSteady, firstRuns⟩ := each declaration List.mem_cons_self
    obtain ⟨others, made, steady, runs⟩ :=
      ih fun item member => each item (List.mem_cons_of_mem _ member)
    have together : Expanding.Steady entered
        (resolver.computation levels (.each (declaration :: rest)))
        (first >>= fun parameter => others >>= fun values => .ok (parameter :: values)) := by
      rw [computation, List.mapM_cons]
      exact firstSteady.bind fun parameter => steady.bind fun values => .ok _
    cases first with
    | error error => exact ⟨_, _, together, .fails firstRuns⟩
    | ok parameter =>
      have following := Runs.onward firstRuns runs
      cases others <;> exact ⟨_, _, together, following⟩

theorem suffices_fields
    (inside : name ∉ entered → resolver.Suffices levels ⟨.each fields, name :: entered⟩) :
    resolver.Suffices levels ⟨.fields name fields, entered⟩ := by
  by_cases member : name ∈ entered
  · exact ⟨_, _, .within_entered _ member, .again member⟩
  · obtain ⟨result, made, steady, runs⟩ := inside member
    exact ⟨result, made, .within steady member, .enter member runs⟩

theorem suffices_declaration
    (inside : resolver.document.structures.contains declaration.type →
      resolver.Suffices levels
        ⟨.fields declaration.type (resolver.document.declarations declaration.type), entered⟩) :
    resolver.Suffices (levels + 1) ⟨.declaration declaration, entered⟩ := by
  rw [Suffices, computation_declaration]
  by_cases structured : resolver.document.structures.contains declaration.type
  · obtain ⟨result, made, steady, runs⟩ := inside structured
    rw [if_pos structured]
    exact ⟨_, _, steady.bind fun fields => .lift _, .structured structured runs⟩
  · rw [if_neg structured]
    exact ⟨_, _, (Expanding.Steady.ok []).bind fun fields => .lift _, .plain structured⟩

/-- The levels suffice if, with the structures entered, they outnumber the structures. The induction
is on the levels: each structure entered takes one, and since those entered are different ones, the
last level is never taken. -/
theorem declaration_suffices
    (sound : Frame.Sound resolver.document ⟨.declaration declaration, entered⟩)
    (enough : resolver.document.structures.size < levels + entered.length) :
    resolver.Suffices levels ⟨.declaration declaration, entered⟩ := by
  induction levels generalizing entered declaration with
  | zero =>
    have room : entered.length ≤ resolver.document.structures.size := sound.length_le
    omega
  | succ levels ih =>
    refine suffices_declaration fun structured => suffices_fields fun fresh =>
      suffices_each fun field listed => ?_
    have fieldsSound := (Frame.Makes.fields structured).sound sound
    exact ih ((Frame.Makes.inside fresh listed).sound fieldsSound)
      (by simp only [List.length_cons]; omega)

theorem frame_suffices (levels : Nat) (sound : frame.Sound resolver.document)
    (enough : resolver.document.structures.size < levels + frame.entered.length) :
    resolver.Suffices levels frame := by
  obtain ⟨call, entered⟩ := frame
  dsimp only at enough
  cases call with
  | declaration => exact declaration_suffices sound enough
  | fields name fields =>
    refine suffices_fields fun fresh => suffices_each fun field listed => ?_
    exact declaration_suffices ((Frame.Makes.inside fresh listed).sound sound)
      (by simp only [List.length_cons]; omega)
  | each =>
    refine suffices_each fun declaration listed => ?_
    exact declaration_suffices ((Frame.Makes.item listed).sound sound) enough

/-- The parameters of a function are computed with a level for each structure, and one more. -/
theorem functionParameters_eq_computation {module function : String} {signature : Signature}
    (described : resolver.document.signature? module function = some signature) :
    resolver.functionParameters module function =
      ((resolver.computation (resolver.document.structures.size + 1)
        (.each signature.declarations)).run.run []).1 := by
  have steady : Expanding.Steady []
      (resolver.computation (resolver.document.structures.size + 1) (.each signature.declarations))
      (signature.declarations.mapM
        (resolver.layoutOf (resolver.document.structures.size + 1) [])) :=
    .mapM signature.declarations fun declaration => resolver.layout_steady ..
  rw [functionParameters_eq_mapM described, steady]

/-! ### What is entered -/

/-- **What is entered is sound and restored.** A call that finds different structures of the
document entered comes to an end, in one way only, and leaves entered what it found entered, with a
result as with an error; its computation does the same with levels that, together with the
structures entered, outnumber the structures. All calls inside it are sound in the same way. Of
calls that are nested in each other at most as many lay out a declaration as there are structures
left to enter, and one more, and no more than that enter a structure. The parameters of a function
come from a call that finds nothing entered. -/
theorem stack_restored (resolver : Resolver) :
    (∀ frame : Frame, frame.Sound resolver.document →
      (∃ result made,
        (∀ ended left others, resolver.Runs frame.call frame.entered ended left others ↔
          ended = result ∧ left = frame.entered ∧ others = made) ∧
        ∀ levels, resolver.document.structures.size < levels + frame.entered.length →
          (resolver.computation levels frame.call).run.run frame.entered =
            (result, frame.entered)) ∧
      (∀ inner, ReflTransGen resolver.Calls frame inner → inner.Sound resolver.document) ∧
      ∀ chain, (frame :: chain).IsChain resolver.Calls →
        frame.entered.length + (frame :: chain).countP Frame.declares
            ≤ resolver.document.structures.size + 1 ∧
          frame.entered.length + (frame :: chain).countP Frame.enters
            ≤ resolver.document.structures.size + 1) ∧
    ∀ module function signature,
      resolver.document.signature? module function = some signature →
        Frame.Sound resolver.document ⟨.each signature.declarations, []⟩ ∧
        ∃ made, resolver.Runs (.each signature.declarations) []
          (resolver.functionParameters module function) [] made := by
  refine ⟨fun frame sound => ⟨?_, fun inner => sound_of_calls sound, fun chain nested => ?_⟩,
    fun module function signature described => ?_⟩
  · obtain ⟨result, made, -, runs⟩ :=
      frame_suffices (resolver.document.structures.size + 1) sound (by omega)
    refine ⟨result, made, fun ended left others => ⟨runs.unique, ?_⟩, fun levels enough => ?_⟩
    · rintro ⟨rfl, rfl, rfl⟩
      exact runs
    · obtain ⟨other, _, steady, goes⟩ := frame_suffices levels sound enough
      obtain ⟨rfl, -, -⟩ := runs.unique goes
      exact steady
  · have bounds := nesting_le chain sound nested
    exact ⟨by omega, bounds.2⟩
  · have sound := Frame.sound_nil resolver.document signature.declarations
    obtain ⟨result, made, steady, runs⟩ :=
      frame_suffices (resolver.document.structures.size + 1) sound (by simp)
    refine ⟨sound, made, ?_⟩
    rw [functionParameters_eq_computation described, steady]
    exact runs

/-- The second field of the header. Its type comes back to itself through the link. -/
def firstEntry : Declaration := ⟨"first", ⟨"SLIST_ENTRY"⟩, 8⟩

/-- Where the header is entered, its second field is refused inside the link, and the header is left
entered. The declarations on the way there are as many as there may be. -/
theorem slist_firstEntry :
    Frame.Sound slist.document ⟨.declaration firstEntry, [⟨"SLIST_HEADER"⟩]⟩ ∧
    (∃ made, slist.Runs (.declaration firstEntry) [⟨"SLIST_HEADER"⟩]
      (.error (.recursiveStructure ⟨"SLIST_ENTRY"⟩)) [⟨"SLIST_HEADER"⟩] made) ∧
    ∃ chain, (⟨.declaration firstEntry, [⟨"SLIST_HEADER"⟩]⟩ :: chain).IsChain slist.Calls ∧
      1 + (⟨.declaration firstEntry, [⟨"SLIST_HEADER"⟩]⟩ :: chain).countP Frame.declares =
        slist.document.structures.size + 1 := by
  have sound : Frame.Sound slist.document ⟨.declaration firstEntry, [⟨"SLIST_HEADER"⟩]⟩ :=
    ⟨by decide, by decide, nofun⟩
  obtain ⟨⟨result, made, exact, computed⟩, -, -⟩ := (stack_restored slist).1 _ sound
  have refused : .error (.recursiveStructure ⟨"SLIST_ENTRY"⟩) = result :=
    congrArg Prod.fst (computed 3 (by decide))
  refine ⟨sound, ⟨made, (exact _ _ _).mpr ⟨refused, rfl, rfl⟩⟩, ?_⟩
  -- The calls on the way, the innermost first, each with its course.
  have sixth : slist.Runs (.fields ⟨"SLIST_ENTRY"⟩ [⟨"next", ⟨"SLIST_LINK"⟩, 0⟩])
    [⟨"SLIST_LINK"⟩, ⟨"SLIST_ENTRY"⟩, ⟨"SLIST_HEADER"⟩] _ _ _ := .again (by decide)
  have fifth : slist.Runs (.declaration ⟨"entry", ⟨"SLIST_ENTRY"⟩, 0⟩) _ _ _ _ :=
    .structured (by decide) sixth
  have fourth : slist.Runs (.fields ⟨"SLIST_LINK"⟩ [⟨"entry", ⟨"SLIST_ENTRY"⟩, 0⟩]) _ _ _ _ :=
    .enter (by decide) (.fails fifth)
  have third : slist.Runs (.declaration ⟨"next", ⟨"SLIST_LINK"⟩, 0⟩) _ _ _ _ :=
    .structured (by decide) fourth
  have second : slist.Runs (.fields ⟨"SLIST_ENTRY"⟩ [⟨"next", ⟨"SLIST_LINK"⟩, 0⟩]) _ _ _ _ :=
    .enter (by decide) (.fails third)
  have first : slist.Runs (.declaration firstEntry) _ _ _ _ := .structured (by decide) second
  exact ⟨_, .cons_cons ⟨_, _, _, first, List.mem_cons_self⟩ <|
    .cons_cons ⟨_, _, _, second, List.mem_cons_self⟩ <|
    .cons_cons ⟨_, _, _, third, List.mem_cons_self⟩ <|
    .cons_cons ⟨_, _, _, fourth, List.mem_cons_self⟩ <|
    .cons_cons ⟨_, _, _, fifth, List.mem_cons_self⟩ <| .singleton _, rfl⟩

end Resolver
end CallSchema
