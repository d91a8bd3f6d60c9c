import EffectGraph.Proofs.Deafness

/-!
# Operations on cells

A cell is made with a content, and then its content is overwritten or changed.  The operations that
were completed, in their order, decide what every cell holds: its initial content, to which the
operations on this cell have been applied one after another (`World.Operated.content`), whatever other
cells they were interleaved with.  A cell that is made is a new one (`World.Operated.made`).

To do nothing to the cells but such operations is a discipline (`Eff.operating`), so the callbacks of the
library do nothing else as long as the functions of the host do not.
-/

namespace EffectGraph

/-- **An operation on a cell** that was completed. -/
inductive CellOp where
  /-- The cell was made with a content. -/
  | make (address : Nat) (initial : Value)
  /-- The content was overwritten. -/
  | set (address : Nat) (content : Value)
  /-- The content was changed. -/
  | modify (address : Nat) (change : Value → Value)

namespace CellOp

/-- The cell that an operation is on. -/
def address : CellOp → Nat
  | make address _ => address
  | set address _ => address
  | modify address _ => address

/-- What an operation makes of the content of its cell, if there is the cell. -/
def apply : CellOp → Option Value → Option Value
  | make _ initial, _ => some initial
  | set _ content, old => old.map fun _ => content
  | modify _ change, old => old.map change

/-- The cell that an operation makes. -/
def made? : CellOp → Option Nat
  | make address _ => some address
  | _ => none

/-- **What a cell holds after some operations:** those on this cell, in their order, decide. -/
def contentAfter (ops : List CellOp) (address : Nat) (content : Option Value) : Option Value :=
  (ops.filter (·.address = address)).foldl (fun old op => op.apply old) content

/-- The cells that some operations have made. -/
def made (ops : List CellOp) : List Nat := ops.filterMap made?

variable {ops ops' : List CellOp} {op op' : CellOp} {address : Nat} {content : Option Value}

@[simp]
theorem contentAfter_nil : contentAfter [] address content = content := rfl

theorem contentAfter_append : contentAfter (ops ++ ops') address content =
    contentAfter ops' address (contentAfter ops address content) := by
  simp only [contentAfter, List.filter_append, List.foldl_append]

theorem contentAfter_self (op : CellOp) : contentAfter [op] op.address content = op.apply content := by
  simp [contentAfter]

/-- **An operation on one cell leaves every other cell alone.** -/
theorem contentAfter_other (op : CellOp) (hop : op.address ≠ address) :
    contentAfter [op] address content = content := by
  simp [contentAfter, hop]

/-- What is not operated on keeps its content. -/
theorem contentAfter_of_forall_ne (hops : ∀ op ∈ ops, op.address ≠ address) :
    contentAfter ops address content = content := by
  have hnone : ops.filter (·.address = address) = [] := by
    simpa [List.filter_eq_nil_iff] using hops
  rw [contentAfter, hnone, List.foldl_nil]

/-- **Operations on different cells commute.** -/
theorem contentAfter_swap (hop : op.address ≠ op'.address) :
    contentAfter (ops ++ op :: op' :: ops') address content =
      contentAfter (ops ++ op' :: op :: ops') address content := by
  have hswap : [op, op'].filter (·.address = address) = [op', op].filter (·.address = address) := by
    by_cases ha : op.address = address
    · have ha' : op'.address ≠ address := fun h => hop (ha.trans h.symm)
      simp [ha, ha']
    · simp [List.filter_cons, ha]
  have hrest (first second : CellOp) : (ops ++ first :: second :: ops').filter (·.address = address) =
      ops.filter (·.address = address) ++ ([first, second].filter (·.address = address) ++
        ops'.filter (·.address = address)) := by
    rw [← List.filter_append, ← List.filter_append]
    rfl
  rw [contentAfter, contentAfter, hrest, hrest, hswap]

/-- What there is stays, whatever is done to it. -/
theorem exists_contentAfter (ops : List CellOp) (address : Nat) (old : Value) :
    ∃ content, contentAfter ops address (some old) = some content := by
  unfold contentAfter
  induction ops.filter (·.address = address) generalizing old with
  | nil => exact ⟨old, rfl⟩
  | cons op ops ih => cases op <;> exact ih _

theorem made_append : made (ops ++ ops') = made ops ++ made ops' := List.filterMap_append

end CellOp

/-! ### What is done to the cells -/

/-- The world that a computation leaves, however it ends. -/
def Eff.left {α : Type} (x : Eff α) (w : World) : World :=
  match x w with
  | .ok _ w' => w'
  | .error _ w' => w'

/-- The content of a cell as it is read. -/
def World.cellAt (w : World) (address : Nat) : Value := w.cells[address]?.getD .none

/-- A cell that there is holds what is read. -/
theorem World.cellAt_of_some {w : World} {address : Nat} {content : Value}
    (hcell : w.cells[address]? = some content) : w.cellAt address = content := by
  rw [cellAt, hcell, Option.getD_some]

/-- What the function of an update makes of a content in a world; nothing if it raises. -/
def Update.change (h : Host) (w : World) (update : Update Value) (content : Value) : Value :=
  match update.run h content w with
  | .ok new _ => new
  | .error _ _ => content

/-- **Operations lead from one world to another,** as far as the cells can tell.  An update is an
operation of its own if its function leaves the cells alone, whatever host has called it. -/
inductive World.Operated : World → List CellOp → World → Prop
  | idle {w w'} (hcells : w'.cells = w.cells) : Operated w [] w'
  | make {w w'} (initial : Value) (hcells : w'.cells = w.cells.push initial) :
      Operated w [.make w.cells.size initial] w'
  | set {w w'} (address : Nat) (content : Value)
      (hcells : w'.cells = w.cells.setIfInBounds address content) :
      Operated w [.set address content] w'
  | modify {w w₁ w'} (h : Host) (address : Nat) (update : Update Value) {new : Value}
      (hrun : update.run h (w.cellAt address) w = .ok new w₁) (hidle : w₁.cells = w.cells)
      (hcells : w'.cells = w₁.cells.setIfInBounds address new) :
      Operated w [.modify address (update.change h w)] w'
  | trans {w w₁ w' ops ops'} (hops : Operated w ops w₁) (hops' : Operated w₁ ops' w') :
      Operated w (ops ++ ops') w'

namespace World.Operated

open CellOp

variable {w w' : World} {ops : List CellOp}

/-- Only the cells of the two worlds matter. -/
theorem of_cells {u u' : World} (hops : u.Operated ops u') (hw : u.cells = w.cells)
    (hw' : w'.cells = u'.cells) : w.Operated ops w' := by
  have hall := ((Operated.idle hw).trans hops).trans (.idle hw')
  rwa [List.nil_append, List.append_nil] at hall

/-- Overwriting a cell changes this cell, if there is one, and no other. -/
theorem getElem?_setIfInBounds (cells : Array Value) (op : CellOp) {new : Value}
    (hop : ∀ old, cells[op.address]? = some old → op.apply (some old) = some new)
    (hnone : op.apply none = none) (address : Nat) :
    (cells.setIfInBounds op.address new)[address]? = contentAfter [op] address cells[address]? := by
  by_cases ha : op.address = address
  · subst ha
    rw [contentAfter_self, Array.getElem?_setIfInBounds_self]
    cases hold : cells[op.address]? with
    | none =>
      have hsize : ¬ op.address < cells.size := by
        intro hlt
        rw [Array.getElem?_eq_getElem hlt] at hold
        cases hold
      rw [if_neg hsize, hnone]
    | some old =>
      have hsize : op.address < cells.size := (Array.getElem?_eq_some_iff.1 hold).1
      rw [if_pos hsize, hop old hold]
  · rw [contentAfter_other op ha, Array.getElem?_setIfInBounds_ne ha]

/-- **What each cell holds** is what the operations on it make of what it held before. -/
theorem content (hw : w.Operated ops w') (address : Nat) :
    w'.cells[address]? = contentAfter ops address w.cells[address]? := by
  induction hw with
  | idle hcells => rw [hcells, contentAfter_nil]
  | @make w w' initial hcells =>
    rw [hcells]
    by_cases ha : w.cells.size = address
    · subst ha
      rw [Array.getElem?_push_size]
      exact (contentAfter_self (.make w.cells.size initial)).symm
    · rw [contentAfter_other (.make w.cells.size initial) ha, Array.getElem?_push]
      rw [if_neg (Ne.symm ha)]
  | @set w w' address' new hcells =>
    rw [hcells]
    exact getElem?_setIfInBounds w.cells (.set address' new) (fun _ _ => rfl) rfl address
  | @modify w w₁ w' h address' update new hrun hidle hcells =>
    rw [hcells, hidle]
    refine getElem?_setIfInBounds w.cells (.modify address' (update.change h w)) ?_ rfl address
    intro old hold
    have hread : w.cellAt address' = old := cellAt_of_some hold
    rw [hread] at hrun
    simp only [apply, Option.map_some, Update.change, hrun]
  | trans _ _ ih ih' => rw [ih', ih, contentAfter_append]

/-- **The cells that are made are new,** each with the next free number. -/
theorem made (hw : w.Operated ops w') :
    CellOp.made ops = List.range' w.cells.size (CellOp.made ops).length ∧
      w'.cells.size = w.cells.size + (CellOp.made ops).length := by
  induction hw with
  | idle hcells => exact ⟨rfl, congrArg Array.size hcells⟩
  | make initial hcells =>
    rw [hcells, Array.size_push]
    exact ⟨rfl, rfl⟩
  | set address new hcells =>
    rw [hcells, Array.size_setIfInBounds]
    exact ⟨rfl, rfl⟩
  | modify h address update hrun hidle hcells =>
    rw [hcells, Array.size_setIfInBounds, hidle]
    exact ⟨rfl, rfl⟩
  | @trans w w₁ w' ops ops' _ _ ih ih' =>
    rw [made_append, List.length_append]
    refine ⟨?_, by omega⟩
    rw [ih.1, ih'.1, List.length_range', List.length_range', ih.2, List.range'_append_1]

end World.Operated

/-! ### The discipline -/

namespace Eff

variable {α β : Type} {x : Eff α} {w : World}

theorem left_of_ok {a : α} {w' : World} (hx : x w = .ok a w') : x.left w = w' := by
  simp only [left, hx]

theorem left_of_error {signal : Signal} {w' : World} (hx : x w = .error signal w') :
    x.left w = w' := by
  simp only [left, hx]

/-- Computations that give the same leave the same world. -/
theorem left_congr {y : Eff α} {w' : World} (hxy : x w = y w') : x.left w = y.left w' := by
  simp only [left, hxy]

/-- After a computation that gave something, it is the next one that leaves the world. -/
theorem left_bind_of_ok {f : α → Eff β} {a : α} {w' : World} (hx : x w = .ok a w') :
    (x >>= f).left w = (f a).left w' := by
  simp only [left, bind_of_ok hx]

/-- **A computation that operates on cells** does nothing else to them. -/
def Operates (x : Eff α) : Prop := ∀ w : World, ∃ ops, w.Operated ops (x.left w)

namespace Operates

/-- What leaves the cells alone operates on them. -/
theorem of_idle (hx : ∀ w, (x.left w).cells = w.cells) : Operates x := fun w => ⟨[], .idle (hx w)⟩

theorem bind {f : α → Eff β} (hx : Operates x) (hf : ∀ a, Operates (f a)) : Operates (x >>= f) := by
  intro w
  obtain ⟨ops, hops⟩ := hx w
  cases hxw : x w with
  | ok a w₁ =>
    obtain ⟨ops', hops'⟩ := hf a w₁
    rw [left_of_ok hxw] at hops
    rw [left_bind_of_ok hxw]
    exact ⟨ops ++ ops', hops.trans hops'⟩
  | error signal w₁ =>
    rw [left_of_error hxw] at hops
    rw [left_of_error (bind_of_error hxw)]
    exact ⟨ops, hops⟩

theorem left_attempt (x : Eff α) (w : World) : (Eff.attempt x).left w = x.left w := by
  unfold left Eff.attempt
  cases x w with
  | ok a w' => rfl
  | error signal w' => cases signal <;> rfl

theorem attempt (hx : Operates x) : Operates (Eff.attempt x) := by
  intro w
  rw [left_attempt]
  exact hx w

/-- Reading a line takes it off the input and does nothing to the cells. -/
theorem readStandard : Operates Console.readStandard := by
  refine of_idle fun w => ?_
  unfold left Console.readStandard
  rw [bind_get]
  rcases Lines.takeRaw w.ending w.input with ⟨raw, rest⟩
  simp only
  cases raw.isEmpty <;> rfl

end Operates

/-- **To do nothing to the cells but to operate on them is a discipline.** -/
def operating : Discipline where
  Obeys := Operates
  pure _ := .of_idle fun _ => rfl
  bind := .bind
  attempt := .attempt
  raise _ := .of_idle fun _ => rfl
  exhausted := .of_idle fun _ => rfl
  get_bind _ hf := fun w => hf w w
  modifyGet _ hcells := .of_idle hcells
  newCell initial := fun _ => ⟨_, .make initial rfl⟩
  writeCell address content := fun _ => ⟨_, .set address content rfl⟩
  readStandard := .readStandard

end Eff
end EffectGraph
