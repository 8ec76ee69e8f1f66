import CallSchema.Proofs.Resolution

/-!
The search for what a symbol stands for, without a bound on its rounds, and against plain iteration
of what stands next. `Resolver.Returns` is the search that goes round until it has an answer,
however long that takes: it always gets to one, and the bounded search gives the same. `Walk.after`
iterates the edges of a node; the answer is told by where the iteration stops, or by that it never
does (`basicType_exact`).
-/
namespace CallSchema
open Walk

/-! ### Iteration of edges -/

namespace Walk
variable {α : Type} {next : α → Option α} {node reached last : α}

/-- The node that is reached over so many edges, unless they run out before. -/
def after (next : α → Option α) (node : α) : Nat → Option α
  | 0 => some node
  | edges + 1 => (after next node edges).bind next

theorem reaches_iff_after :
    Reaches next node reached ↔ ∃ edges, after next node edges = some reached := by
  constructor
  · intro reaches
    induction reaches with
    | refl => exact ⟨0, rfl⟩
    | tail _ edge ih =>
      obtain ⟨edges, passed⟩ := ih
      exact ⟨edges + 1, Option.bind_eq_some_iff.mpr ⟨_, passed, edge⟩⟩
  · rintro ⟨edges, found⟩
    induction edges generalizing reached with
    | zero =>
      cases found
      exact .refl
    | succ edges ih =>
      obtain ⟨passed, before, edge⟩ := Option.bind_eq_some_iff.mp found
      exact (ih before).tail edge

theorem endsAt_iff_after :
    EndsAt next node last ↔ (∃ edges, after next node edges = some last) ∧ next last = none :=
  and_congr_left fun _ => reaches_iff_after

/-- Edges never run out exactly if any number of them can be followed. -/
theorem neverEnds_iff_after : NeverEnds next node ↔ ∀ edges, (after next node edges).isSome := by
  constructor
  · intro never edges
    induction edges with
    | zero => rfl
    | succ edges ih =>
      obtain ⟨passed, found⟩ := Option.isSome_iff_exists.mp ih
      rw [after, found]
      exact never passed (reaches_iff_after.mpr ⟨edges, found⟩)
  · intro all reached reaches
    obtain ⟨edges, found⟩ := reaches_iff_after.mp reaches
    have further := all (edges + 1)
    rwa [after, found] at further

end Walk

/-! ### The search without a bound -/

/-- The same error, told of another symbol if it tells which one was asked for. -/
def ResolveError.asking (symbol : Symbol) : ResolveError → ResolveError
  | .aliasCycle _ width => .aliasCycle symbol width
  | error => error

namespace Resolver
variable {resolver : Resolver} {asked symbol : Symbol} {steps : Nat} {trail : List Symbol}
  {answer : Except ResolveError Symbol}

/-- The search that has come over a trail to a symbol ends, after however many rounds, with an
answer. A round ends it at a backing type, at a symbol of the trail, and at one in whose place
nothing stands; else the search goes round again from what stands next. -/
inductive Returns (resolver : Resolver) (asked : Symbol) :
    List Symbol → Symbol → Except ResolveError Symbol → Prop where
  | backing {trail : List Symbol} {current : Symbol}
      (backed : resolver.document.backing.contains current) :
      Returns resolver asked trail current (.ok current)
  | again {trail : List Symbol} {current : Symbol}
      (unbacked : ¬ resolver.document.backing.contains current) (passed : current ∈ trail) :
      Returns resolver asked trail current (.error (.aliasCycle asked resolver.width))
  | unresolved {trail : List Symbol} {current : Symbol}
      (unbacked : ¬ resolver.document.backing.contains current) (fresh : current ∉ trail)
      (none : resolver.next current = none) :
      Returns resolver asked trail current (.error (.unresolvedSymbol current resolver.width))
  | onward {trail : List Symbol} {current target : Symbol} {answer : Except ResolveError Symbol}
      (unbacked : ¬ resolver.document.backing.contains current) (fresh : current ∉ trail)
      (edge : resolver.next current = some target)
      (rest : Returns resolver asked (current :: trail) target answer) :
      Returns resolver asked trail current answer

/-- The search ends in one way only. -/
theorem Returns.unique {different : Except ResolveError Symbol}
    (first : Returns resolver asked trail symbol answer)
    (second : Returns resolver asked trail symbol different) : answer = different := by
  induction first with
  | backing backed =>
    cases second with
    | backing => rfl
    | again unbacked | unresolved unbacked | onward unbacked => exact absurd backed unbacked
  | again unbacked passed =>
    cases second with
    | backing backed => exact absurd backed unbacked
    | again => rfl
    | unresolved _ fresh | onward _ fresh => exact absurd passed fresh
  | unresolved unbacked fresh none =>
    cases second with
    | backing backed => exact absurd backed unbacked
    | again _ passed => exact absurd passed fresh
    | unresolved => rfl
    | onward _ _ edge => exact absurd (none.symm.trans edge) (by simp)
  | onward unbacked fresh edge _ ih =>
    cases second with
    | backing backed => exact absurd backed unbacked
    | again _ passed => exact absurd passed fresh
    | unresolved _ _ none => exact absurd (none.symm.trans edge) (by simp)
    | onward _ _ found rest =>
      obtain rfl := edge_unique edge found
      exact ih rest

/-- With enough steps the bounded search goes round as the search without a bound does. The
induction is on the steps; the trail makes sure that they are not used up. -/
theorem returns_follow (track : Trail resolver.next resolver.passable steps trail symbol) :
    Returns resolver asked trail symbol (resolver.follow asked steps trail symbol) := by
  induction steps generalizing trail symbol with
  | zero => exact absurd (track.steps_pos resolver.counted) (Nat.lt_irrefl 0)
  | succ steps ih =>
    rw [follow]
    split
    · rename_i backed
      exact .backing backed
    · rename_i unbacked
      split
      · rename_i passed
        exact .again unbacked passed
      · rename_i fresh
        split
        · rename_i target edge
          exact .onward unbacked fresh edge (ih (track.extend fresh edge))
        · rename_i none
          exact .unresolved unbacked fresh none

/-- The search without a bound ends, and with the answer of the bounded one. -/
theorem returns_iff :
    Returns resolver symbol [] symbol answer ↔ resolver.basicType symbol = answer := by
  have returns : Returns resolver symbol [] symbol (resolver.basicType symbol) := by
    rw [basicType, ← length_passable]
    exact returns_follow (.start resolver.next resolver.passable symbol)
  constructor
  · exact returns.unique
  · rintro rfl
    exact returns

/-! ### Outcomes -/

/-- Asked for another symbol, the search that leads to the same place has the same answer, told of
that symbol. -/
theorem Answers.asking (answers : Answers resolver asked symbol answer) (other : Symbol) :
    Answers resolver other symbol (answer.mapError (.asking other)) := by
  cases answers with
  | backing ends backed => exact .backing ends backed
  | unresolved ends unbacked => exact .unresolved ends unbacked
  | endless never => exact .endless never

/-- A symbol has the outcome of the one that stands next, told of itself. -/
theorem basicType_eq_of_edge {target : Symbol} (edge : resolver.next symbol = some target) :
    resolver.basicType symbol = (resolver.basicType target).mapError (.asking symbol) :=
  basicType_eq_iff.mpr (((resolver.basicType_answers target).asking symbol).step edge)

/-- **What a symbol stands for is where iteration stops.** The search goes round until it has an
answer, and it always gets to one. That is a backing type exactly if iterating what stands next
stops there; it is an unresolved symbol exactly if the iteration stops there and the symbol is no
backing type; and it is an endless search exactly if the iteration never stops. So a symbol and the
one that stands next have the same outcome, but for the symbol that an endless search is told of. -/
theorem basicType_exact (resolver : Resolver) (symbol : Symbol) :
    (∀ answer, Returns resolver symbol [] symbol answer ↔ resolver.basicType symbol = answer) ∧
    (∀ basic, resolver.basicType symbol = .ok basic ↔
      (∃ rounds, after resolver.next symbol rounds = some basic) ∧ resolver.next basic = none ∧
        resolver.document.backing.contains basic = true) ∧
    (∀ last, resolver.basicType symbol = .error (.unresolvedSymbol last resolver.width) ↔
      (∃ rounds, after resolver.next symbol rounds = some last) ∧ resolver.next last = none ∧
        ¬ resolver.document.backing.contains last = true) ∧
    (resolver.basicType symbol = .error (.aliasCycle symbol resolver.width) ↔
      ∀ rounds, (after resolver.next symbol rounds).isSome) ∧
    ∀ target, resolver.next symbol = some target →
      resolver.basicType symbol = (resolver.basicType target).mapError (.asking symbol) := by
  refine ⟨fun _ => returns_iff, fun basic => ?_, fun last => ?_, ?_, fun _ => basicType_eq_of_edge⟩
  · rw [basicType_eq_ok_iff, endsAt_iff_after, and_assoc]
  · rw [basicType_eq_unresolved_iff, endsAt_iff_after, and_assoc]
    exact and_iff_right rfl
  · rw [basicType_eq_aliasCycle_iff, neverEnds_iff_after]
    exact (and_iff_right rfl).trans (and_iff_right rfl)

end Resolver
end CallSchema
