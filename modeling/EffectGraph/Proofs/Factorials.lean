import EffectGraph.Proofs.Repetitions
import EffectGraph.Proofs.Space
import Mathlib.Data.Nat.Factorial.Basic

/-!
# Factorials, computed in a cell

The factorial of a number is computed by a loop over a range that multiplies a new cell by one number
after the other.  After `j` rounds the cell holds the factorial of `j` and the next number is `j + 1`
(`multiplied`); the next round leads from there to the same with one more (`exists_goes_multiplied`).
So a run gives the factorial, whatever the number is, and the cell is all that it leaves among the cells
(`factorial_reported`).

A cell is named in the labels of the nodes that use it, by a number or by what a script has called it.
So there has to be a name for the cell that is made (`World.Nameable`).
-/

namespace EffectGraph

open Machine
open scoped Nat

/-- **The next cells that are made have the names that their numbers give them:** no script has named
them, and the numbers can be written. -/
def World.Nameable (w : World) (count : Nat) : Prop :=
  ∀ k < count, w.given? (.cell (w.cells.size + k)) "ref_id" = none ∧
    Datum.writable (w.cells.size + k + 1) = true

/-- A cell that no script has named is named by its number. -/
theorem World.cellName_of_unnamed {u : World} {address : Nat}
    (hgiven : u.given? (.cell address) "ref_id" = none) (hnumber : Datum.writable (address + 1) = true) :
    cellName address u = .ok ("Ref#" ++ toString (address + 1 : Int)) u := by
  have hname : u.str? (.cell address) = .ok ("Ref#" ++ toString (address + 1 : Int)) := by
    have hshown : (Datum.int (address + 1)).str? = .ok (toString (address + 1 : Int)) := if_pos hnumber
    simp only [str?, spellOut, spellWith, Datum.str?, Datum.repr?, givenOr, Value.identity?, hgiven]
    exact congrArg (fun r : Except Complaint String => do return "Ref#" ++ (← r)) hshown
  rw [cellName, Eff.bind_get, hname]
  rfl

/-- One cell more leaves one name less. -/
theorem World.Nameable.push {w u : World} {count : Nat} {content : Value} (hw : w.Nameable (count + 1))
    (hcells : u.cells = w.cells.push content) (hattributes : u.attributes = w.attributes) :
    u.Nameable count := by
  intro k hk
  have hsize : u.cells.size + k = w.cells.size + (k + 1) := by
    rw [hcells, Array.size_push]
    omega
  obtain ⟨hgiven, hnumber⟩ := hw (k + 1) (Nat.succ_lt_succ hk)
  rw [← Int.natCast_add, hsize, World.given?, hattributes]
  exact ⟨hgiven, hnumber⟩

/-- A run that ends with an outcome is reported, with what it has counted. -/
theorem Machine.Runs.exists_runReport {h : Host} {settings : Settings} {node : Value} {w w' : World}
    {description : String} {o : Outcome} {c : Counters} (hnode : node.isNode = true)
    (hd : w.ticked.describe? node = .ok description)
    (hruns : Runs h settings node (w.opened description) o.ending c w') :
    ∃ fuel r, runReport h fuel settings node w = .ok r (w'.closed (closing c o)) ∧
      r.outcome = o ∧ r.counters = c := by
  obtain ⟨fuel, s, hdrive, rfl⟩ := hruns
  refine ⟨fuel, ⟨o, s.counters, w.ticked.journal.clock, w'.ticked.journal.clock⟩, ?_, rfl, rfl⟩
  rw [runReport_of_described hnode hd, Eff.bind_of_ok hdrive, concluded_of_outcome]

theorem setIfInBounds_push_size {α : Type} (xs : Array α) (a b : α) :
    (xs.push a).setIfInBounds xs.size b = xs.push b := by
  grind

namespace Sample

variable {fuel : Nat} {n : Int} {w : World}

/-- The world in the loop: a cell with a content was made, and an iterator over the numbers up to `n`,
which is at a place. -/
def multiplying (w : World) (n place content : Int) : World :=
  { w with
    cells := w.cells.push (.int content)
    iterators := w.iterators.push (.numbers place (n + 1)) }

/-- **The world after some rounds of the loop.** -/
def multiplied (w : World) (n : Int) (rounds : Nat) : World :=
  multiplying w n (rounds + 1) (rounds ! : Nat)

/-- What is done for each number. -/
abbrev scaling (w : World) : FoldStep Value := .discard (.scale (.cell w.cells.size))

/-- The loop over the numbers up to `n`, in a world in which the cell has been made. -/
abbrev scalingLoop (h : Host) (w : World) (n : Int) : Loop h :=
  .fold h (.range 0 1 (n + 1)) .none (scaling w)

/-- The name of the cell. -/
def accumulatorName (w : World) : String := "Ref#" ++ toString (w.cells.size + 1 : Int)

/-- The node of one round multiplies the cell by a number. -/
theorem evaluates_scale (h : Host) (place content factor : Int) :
    Evaluates h (Graph.skip (Graph.updateCell w.cells.size (accumulatorName w) (.multiply (.int factor))))
      (multiplying w n place content) (.value .none) (Counters.zero.acted.chained .zero)
      (multiplying w n place (content * factor)) := by
  have hcell : (multiplying w n place content).cellAt w.cells.size = .int content :=
    World.cellAt_of_some Array.getElem?_push_size
  have hmultiply : (Update.multiply (.int factor)).run h
      ((multiplying w n place content).cellAt w.cells.size) (multiplying w n place content) =
        .ok (.int (content * factor)) (multiplying w n place content) := by
    rw [hcell]
    rfl
  have hwritten : { multiplying w n place content with
      cells := (multiplying w n place content).cells.setIfInBounds w.cells.size
        (.int (content * factor)) } = multiplying w n place (content * factor) := by
    simp only [multiplying, setIfInBounds_push_size]
  have hupdate := updateCell_of_ok hmultiply 0
  rw [hwritten] at hupdate
  exact .sequence (.action (performed_of_ok hupdate _)) rfl .done

/-- The iterator gives the number at which it is, up to the last one. -/
theorem pull_multiplied (fuel : Nat) (n : Int) (w : World) (rounds : Nat) :
    (Script.host (fuel + 1)).pull (.iterator w.iterators.size) (multiplied w n rounds) =
      if (rounds + 1 : Int) < n + 1 then
        .ok (some (.int (rounds + 1))) (multiplying w n (rounds + 1 + 1) (rounds ! : Nat))
      else .ok none (multiplied w n rounds) := by
  have hplace : (multiplied w n rounds).iterators[w.iterators.size]? =
      some (.numbers (rounds + 1) (n + 1)) := Array.getElem?_push_size
  refine (Script.pullIterator_numbers hplace).trans ?_
  simp only [multiplied, multiplying, setIfInBounds_push_size]

section loop

variable (hw : w.Nameable 1)
include hw

/-- The name of the cell is there all the time. -/
theorem cellName_accumulator {u : World} (hu : u.attributes = w.attributes) :
    World.cellName w.cells.size u = .ok (accumulatorName w) u := by
  obtain ⟨hgiven, hnumber⟩ := hw 0 Nat.zero_lt_one
  refine World.cellName_of_unnamed ?_ hnumber
  rw [World.given?, hu]
  exact hgiven

/-- What is done for a number is to give that node. -/
theorem run_scaling (h : Host) (factor : Int) {u : World} (hu : u.attributes = w.attributes) :
    (scaling w).run h .none (.int factor) u =
      .ok (Graph.skip (Graph.updateCell w.cells.size (accumulatorName w) (.multiply (.int factor)))) u := by
  have hmapper : (Mapper.scale (.cell w.cells.size)).run h (.int factor) u =
      .ok (Graph.updateCell w.cells.size (accumulatorName w) (.multiply (.int factor))) u :=
    Eff.bind_of_ok (cellName_accumulator hw hu)
  exact Eff.bind_of_ok hmapper

/-- **The loop goes on to the factorial of its last number.**  The induction is on the number of rounds
that are left; each multiplies the cell by the number at which the iterator is. -/
theorem exists_goes_multiplied (fuel : Nat) (n : Int) (left rounds : Nat) (hleft : rounds + left = n.toNat) :
    ∃ r u parts k, Loop.foldElement (Script.host (fuel + 1)) (scaling w) (.iterator w.iterators.size)
        .none (multiplied w n rounds) = .ok r u ∧
      (scalingLoop (Script.host (fuel + 1)) w n).Goes r u parts (.value .none) k
        (multiplied w n n.toNat) ∧
      k.totalEffects = left ∧ k.maxStackDepth ≤ 2 := by
  have hpull := pull_multiplied fuel n w rounds
  induction left generalizing rounds with
  | zero =>
    obtain rfl : rounds = n.toNat := by omega
    rw [if_neg (by omega)] at hpull
    exact ⟨.finish .none, _, [], .zero, Eff.bind_of_ok hpull, .finish, rfl, Nat.zero_le 2⟩
  | succ left ih =>
    rw [if_pos (by omega)] at hpull
    obtain ⟨r, u, parts, k, hnext, hgoes, heffects, hdepth⟩ :=
      ih (rounds + 1) (by omega) (pull_multiplied fuel n w (rounds + 1))
    have hpart := evaluates_scale (n := n) (w := w) (Script.host (fuel + 1)) (rounds + 1 + 1)
      (rounds ! : Nat) (rounds + 1)
    have hproduct : multiplying w n (rounds + 1 + 1) ((rounds ! : Nat) * (rounds + 1)) =
        multiplied w n (rounds + 1) := by
      rw [multiplied, Nat.factorial_succ, Nat.mul_comm]
      push_cast
      rfl
    rw [hproduct] at hpart
    have hrun := run_scaling hw (Script.host (fuel + 1)) (rounds + 1)
      (u := multiplying w n (rounds + 1 + 1) (rounds ! : Nat)) rfl
    refine ⟨_, _, _, _, (Eff.bind_of_ok hpull).trans (Eff.bind_of_ok hrun),
      .round hpart hnext hgoes, ?_, ?_⟩
    · simp only [Counters.chained, Counters.acted, Counters.zero]
      omega
    · simp only [Counters.chained, Counters.acted, Counters.zero]
      omega

/-- **A factorial is computed:** the node of the factorial of a number comes to it, in a world with one
more cell, by two actions more than there are numbers and three frames deep at most. -/
theorem exists_evaluates_factorial (fuel : Nat) (n : Int) :
    ∃ k, Evaluates (Script.host (fuel + 1)) (factorial (.int n)) w (.value (.int (n.toNat ! : Nat))) k
        (multiplied w n n.toNat) ∧
      k.totalEffects = n.toNat + 2 ∧ k.maxStackDepth ≤ 3 := by
  let u : World := { w with cells := w.cells.push (.int 1) }
  obtain ⟨r, u', parts, k, hnext, hgoes, heffects, hdepth⟩ :=
    exists_goes_multiplied hw fuel n n.toNat 0 (Nat.zero_add _)
  have hopen : (Script.host (fuel + 1)).openIterator (.range 0 1 (n + 1)) u =
      .ok (.iterator w.iterators.size) (multiplied w n 0) := rfl
  have hstart : (scalingLoop (Script.host (fuel + 1)) w n).start u = .ok r u' :=
    (Eff.bind_of_ok hopen).trans hnext
  have hloop := Loop.evaluates_node_iff (i := 0) (j := 0).2 ⟨parts, .started hstart hgoes⟩
  have hmade : Evaluates (Script.host (fuel + 1)) (Graph.newCell (.int 1)) w
      (.value (.cell w.cells.size)) Counters.zero.acted u := .action rfl
  have hname := cellName_accumulator hw (u := u) rfl
  have hbuilt : multiplyUp (Script.host (fuel + 1)) (.int n) (.cell w.cells.size) u = .ok (.sequenced
      ((scalingLoop (Script.host (fuel + 1)) w n).node 0 0)
      (.thenRun (Graph.getCell w.cells.size (accumulatorName w)))) u :=
    (Eff.bind_of_ok (Eff.ofExcept_of_ok rfl)).trans ((Eff.bind_of_ok hname).trans rfl)
  have hread : Evaluates (Script.host (fuel + 1)) (Graph.getCell w.cells.size (accumulatorName w))
      (multiplied w n n.toNat) (.value (.int (n.toNat ! : Nat))) Counters.zero.acted
      (multiplied w n n.toNat) := by
    have hcell : (multiplied w n n.toNat).cellAt w.cells.size = .int (n.toNat ! : Nat) :=
      World.cellAt_of_some Array.getElem?_push_size
    refine .action (performed_of_ok ?_ _)
    rw [← hcell]
    rfl
  refine ⟨_, .sequence hmade (applied_of_node hbuilt rfl) (.sequence hloop rfl hread), ?_, ?_⟩
  · simp only [Counters.chained, Counters.acted, Counters.zero]
    omega
  · simp only [Counters.chained, Counters.acted, Counters.zero]
    omega

end loop

/-- What the node of a factorial is called in the messages about its run. -/
def factorialDescription : String := "FlatMap(Delay, factorial.<locals>.<lambda>)"

theorem describe?_factorial (n : Value) (w : World) :
    w.describe? (factorial n) = .ok factorialDescription := by
  have hrepr : w.repr? (factorial n) = .ok factorialDescription := rfl
  rw [World.describe?, hrepr]
  rfl

/-- **Factorials are computed,** for every whole number and however large it is, by a run without tracing
whose limit, if it has one, admits three frames.  It gives the factorial of the number, which is one for
every number below one; it makes one cell, which then holds this value, and does nothing to the others;
it performs two actions more than there are numbers from one on, and no state of it has more than three
frames.  The node can be run again, from this world or any other in which a cell can be made, and gives
the same value. -/
theorem factorial_reported (fuel : Nat) (n : Int) {settings : Settings} (hs : settings.Admits 3)
    {w : World} (hw : w.Nameable 1) :
    let h := Script.host (fuel + 1)
    let node := factorial (.int n)
    (∃ steps r u, runReport h steps settings node w = .ok r u ∧
      r.outcome = .finished (.int (n.toNat ! : Nat)) ∧
      u.cells = w.cells.push (.int (n.toNat ! : Nat)) ∧
      r.counters.totalEffects = n.toNat + 2 ∧ r.counters.maxStackDepth ≤ 3 ∧
      ∀ count, w.Nameable (count + 1) → u.Nameable count) ∧
    (∀ b, Reaches h settings (.start node, w.opened factorialDescription) b → b.1.stack.depth ≤ 3) ∧
    ∀ v : World, v.Nameable 1 → ∃ steps r u, runReport h steps settings node v = .ok r u ∧
      r.outcome = .finished (.int (n.toNat ! : Nat)) := by
  intro h node
  let o : Outcome := .finished (.int (n.toNat ! : Nat))
  have hruns (v : World) (hv : v.Nameable 1) : ∃ c : Counters, c.totalEffects = n.toNat + 2 ∧
      c.maxStackDepth ≤ 3 ∧ Runs h settings node (v.opened factorialDescription) o.ending c
        (multiplied (v.opened factorialDescription) n n.toNat) := by
    obtain ⟨k, he, heffects, hdepth⟩ :=
      exists_evaluates_factorial (w := v.opened factorialDescription) hv fuel n
    exact ⟨(Verdict.value _).total k, heffects, hdepth,
      (hs.runs_iff (c := (Verdict.value _).total k) hdepth).2 (he.runs hs.plain)⟩
  obtain ⟨c, heffects, hdepth, hrun⟩ := hruns w hw
  refine ⟨?_, fun b hb => ?_, fun v hv => ?_⟩
  · obtain ⟨steps, r, hreport, houtcome, rfl⟩ := hrun.exists_runReport rfl (describe?_factorial _ _)
    exact ⟨steps, r, _, hreport, houtcome, rfl, heffects, hdepth, fun count hall => hall.push rfl rfl⟩
  · exact Nat.le_trans (((hs.runs_iff hdepth).1 hrun).depth_le hs.plain (hs.reaches hb)) hdepth
  · obtain ⟨c', -, -, hrun'⟩ := hruns v hv
    obtain ⟨steps, r, hreport, houtcome, -⟩ := hrun'.exists_runReport rfl (describe?_factorial _ _)
    exact ⟨steps, r, _, hreport, houtcome⟩

/-- The factorial of four, with no more frames admitted than are needed. -/
theorem factorial_reported_four :
    let h := Script.host 1
    let w := Script.SessionInput.recorded
    let settings := Script.settingsOf w (.int 3) (.bool false)
    settings.Admits 3 ∧ w.Nameable 1 ∧
      ∃ steps r u, runReport h steps settings (factorial (.int 4)) w = .ok r u ∧
        r.outcome = .finished (.int 24) ∧ u.cells = w.cells.push (.int 24) ∧
        r.counters.totalEffects = 6 := by
  intro h w settings
  have hs : settings.Admits 3 := ⟨fun _ => rfl, .inr ⟨3, rfl, Nat.le_refl 3⟩⟩
  have hw : w.Nameable 1 := by
    intro k hk
    obtain rfl := Nat.lt_one_iff.mp hk
    exact ⟨rfl, by decide⟩
  obtain ⟨⟨steps, r, u, hreport, houtcome, hcells, heffects, -⟩, -⟩ := factorial_reported 0 4 hs hw
  exact ⟨hs, hw, steps, r, u, hreport, houtcome, hcells, heffects⟩

end Sample
end EffectGraph
