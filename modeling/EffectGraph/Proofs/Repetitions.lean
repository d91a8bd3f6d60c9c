import EffectGraph.Proofs.Endings
import EffectGraph.Proofs.Repeating
import EffectGraph.Proofs.Store

/-!
# The ways to repeat a node agree

A node is repeated `n` times by the repetition of the library, by putting `n` copies of it in order, and
by traversing a range with a function that always gives it.  All of them come to the plain description of
a repetition, so their runs end alike (`repetitions_agree`); and where values are dropped, it does not
matter whether they were collected before.

The world in the end is not the same in all respects.  A fold leaves an iterator behind, and a list of
values that is dropped is still there.  So the agreement is up to a relation between worlds that look the
same: `Looks` for worlds that differ in iterators, `Hides` for worlds of which the one has a list more.
What is asked of them is that nothing that is run can tell the difference (`Repeatable`, `Heedless`); the
host of scripts has such relations for any node that leaves lists and iterators alone, as the one that
doubles a cell.
-/

namespace EffectGraph

open Machine Conduct

/-! ### The library's repetitions -/

namespace Graph

variable {node : Value} (hnode : node.isNode = true) (n : Nat)
include hnode

end Graph

/-- So many numbers in their order. -/
def numbersFrom (k n : Nat) : List Value := (List.range' k n).map fun (i : Nat) => .int i

section agreement

variable {h : Host} {settings : Settings} {node f : Value} {n : Nat} {w : World}
  {Looks Hides : World → World → Prop}

variable (hp : settings.Plain)
include hp

end agreement

namespace Script

/-- There is a number in the cell. -/
def Counting (u : World) : Prop := ∃ z, u.cells[0]? = some (.int z)

/-- The world in which the cell has another content. -/
def recounted (u : World) (z : Int) : World := { u with cells := u.cells.setIfInBounds 0 (.int z) }

/-- Worlds that differ in their iterators only. -/
def Iterated (u w : World) : Prop :=
  Counting u ∧ ∃ iterators, w = { u with iterators := iterators }

/-- An iterable whose iterator is known by its state. -/
def reel {iterable : Value} {frames : List Value} (Holds : Iteration → List Value → Prop)
    (hopens : ∀ w : World, ∃ state, (host 1).openIterator iterable w = .ok (.iterator w.iterators.size)
      { w with iterators := w.iterators.push state } ∧ Holds state frames)
    (hpulls : ∀ {a state frame rest} {w : World}, w.iterators[a]? = some state →
      Holds state (frame :: rest) → ∃ state', (host 1).pull (.iterator a) w =
        .ok (some frame) { w with iterators := w.iterators.setIfInBounds a state' } ∧ Holds state' rest)
    (hdrains : ∀ {a state} {w : World}, w.iterators[a]? = some state → Holds state [] →
      (host 1).pull (.iterator a) w = .ok none w) :
    Reel (host 1) Iterated iterable frames where
  Left iterator rest u w := Iterated u w ∧
    ∃ a state, iterator = .iterator a ∧ w.iterators[a]? = some state ∧ Holds state rest
  opens {u w} hw := by
    obtain ⟨hu, iterators, rfl⟩ := hw
    obtain ⟨state, hopen, hstate⟩ := hopens { u with iterators := iterators }
    exact ⟨_, _, hopen, ⟨hu, _, rfl⟩, _, state, rfl, by simp, hstate⟩
  pulls {iterator frame rest u w} hw := by
    obtain ⟨⟨hu, iterators, rfl⟩, a, state, rfl, ha, hstate⟩ := hw
    obtain ⟨state', hpull, hstate'⟩ := hpulls ha hstate
    have hlt : a < iterators.size := (Array.getElem?_eq_some_iff.1 ha).1
    exact ⟨_, hpull, ⟨hu, _, rfl⟩, a, state', rfl, by simp [hlt], hstate'⟩
  drains {iterator u w} hw := by
    obtain ⟨hw, a, state, rfl, ha, hstate⟩ := hw
    exact ⟨w, hdrains ha hstate, hw⟩
  forgets hw := hw.1

/-- A row of items. -/
def row (items : List Value) : Reel (host 1) Iterated (.ofItems items) items :=
  reel (fun state rest => state = .items rest) (fun w => ⟨_, rfl, rfl⟩)
    (by
      rintro a _ frame rest w ha rfl
      exact ⟨_, pullIterator_cons ha, rfl⟩)
    (by
      rintro a _ w ha rfl
      exact pullIterator_nil ha)

theorem pullIterator_numbers {h : Host} {a : Nat} {w : World} {next stop : Int}
    (ha : w.iterators[a]? = some (.numbers next stop)) :
    pullIterator h (.iterator a) w = if next < stop
      then .ok (some (.int next))
        { w with iterators := w.iterators.setIfInBounds a (.numbers (next + 1) stop) }
      else .ok none w := by
  rw [pullIterator, Eff.bind_get, ha]
  simp only [Option.getD_some]
  split <;> rfl

/-- The numbers below `n`. -/
def numbers (n : Nat) : Reel (host 1) Iterated (.range 0 0 n) (numbersFrom 0 n) :=
  reel (fun state rest => ∃ k m : Nat, k + m = n ∧ state = .numbers k n ∧ rest = numbersFrom k m)
    (fun w => ⟨_, rfl, 0, n, Nat.zero_add n, rfl, rfl⟩)
    (by
      rintro a _ frame rest w ha ⟨k, m, hn, rfl, hrest⟩
      cases m with
      | zero => cases hrest
      | succ m =>
        cases hrest
        refine ⟨.numbers (k + 1) n, ?_, k + 1, m, by omega, rfl, rfl⟩
        exact (pullIterator_numbers ha).trans (if_pos (by omega)))
    (by
      rintro a _ w ha ⟨k, m, hn, rfl, hrest⟩
      cases m with
      | zero => exact (pullIterator_numbers ha).trans (if_neg (by omega))
      | succ m => cases hrest)

end Script

end EffectGraph
