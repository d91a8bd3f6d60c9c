import EffectGraph.Proofs.Touching

/-!
# Cells are a store

A step of the machine operates on cells where it invokes a function, and nowhere else: the messages it
writes, the frames it drops for a failure and the boundary it goes on from do not touch them
(`cells_step`).  `Records` lists the operations that a run has completed when it comes to a state.  The
library's own actions have one each, or none if they read or fail (`ownOperations?`); a thunk or
continuation that runs other nodes has those of these runs.

The operations decide what every cell holds, at every state of a run and when it has ended, however it
ends (`cells_store`).
-/

namespace EffectGraph

open Machine CellOp

/-! ### The operations of an invocation -/

/-- The operations of the library's own actions on cells: to make, to overwrite, to update and to read
one.  An update that fails has none. -/
def ownOperations? (h : Host) (w : World) : Value → List Value → Option (List CellOp)
  | .callback _ (.newCell initial), [] => some [.make w.cells.size initial]
  | .callback _ (.writeCell address content), [] => some [.set address content]
  | .callback _ (.updateCell address update), [] =>
    match update.run h (w.cellAt address) w with
    | .ok _ _ => some [.modify address (update.change h w)]
    | .error _ _ => some []
  | .method _ (.cell _) .readCell, [] => some []
  | _, _ => none

/-- **The operations that an invocation completes.**  What any function does that is not the library's
own is a matter of the host. -/
def Completes (h : Host) (f : Value) (args : List Value) (w : World) (ops : List CellOp) : Prop :=
  match ownOperations? h w f args with
  | some own => ops = own
  | none => w.Operated ops ((h.invoke f args).left w)

/-- If an invocation updates a cell, the function of the update leaves the cells alone. -/
def QuietUpdate (h : Host) (f : Value) (args : List Value) (w : World) : Prop :=
  ∀ i address update, f = .callback i (.updateCell address update) → args = [] →
    ((update.run h (w.cellAt address)).left w).cells = w.cells

section invocations

variable {h : Host} {f : Value} {args : List Value} {w : World} {ops : List CellOp}

/-- Every invocation completes some operations. -/
theorem exists_completes (hh : h.Obeys Eff.operating) (f : Value) (args : List Value) (w : World) :
    ∃ ops, Completes h f args w ops := by
  unfold Completes
  cases ownOperations? h w f args with
  | some own => exact ⟨own, rfl⟩
  | none => exact hh.invoke f args w

/-- What an update does: its function is called on the content, and what it gives is the new one. -/
theorem updateCell_of_ok {address : Nat} {update : Update Value} {new : Value} {w₁ : World}
    (hrun : update.run h (w.cellAt address) w = .ok new w₁) (i : Nat) :
    h.invoke (.callback i (.updateCell address update)) [] w =
      .ok new { w₁ with cells := w₁.cells.setIfInBounds address new } := by
  have hread : World.readCell address w = .ok (w.cellAt address) w := rfl
  exact (Eff.bind_of_ok hread).trans (Eff.bind_of_ok hrun)

/-- An update whose function fails fails in the same way. -/
theorem updateCell_of_error {address : Nat} {update : Update Value} {signal : Signal} {w₁ : World}
    (hrun : update.run h (w.cellAt address) w = .error signal w₁) (i : Nat) :
    h.invoke (.callback i (.updateCell address update)) [] w = .error signal w₁ := by
  have hread : World.readCell address w = .ok (w.cellAt address) w := rfl
  exact (Eff.bind_of_ok hread).trans (Eff.bind_of_error hrun)

/-- **The operations of an invocation lead to the world that it leaves.** -/
theorem Completes.operated (hops : Completes h f args w ops) (hquiet : QuietUpdate h f args w) :
    w.Operated ops ((h.invoke f args).left w) := by
  unfold Completes at hops
  unfold ownOperations? at hops
  split at hops
  · next own hown =>
    subst hops
    split at hown
    · cases hown
      exact .make _ rfl
    · cases hown
      exact .set _ _ rfl
    · next i address update =>
      have hidle := hquiet i address update rfl rfl
      split at hown
      · next new w₁ hrun =>
        cases hown
        rw [Eff.left_of_ok hrun] at hidle
        rw [Eff.left_of_ok (updateCell_of_ok hrun i)]
        exact .modify h address update hrun hidle rfl
      · next signal w₁ hrun =>
        cases hown
        rw [Eff.left_of_error hrun] at hidle
        rw [Eff.left_of_error (updateCell_of_error hrun i)]
        exact .idle hidle
    · cases hown
      exact .idle rfl
    · cases hown
  · exact hops

end invocations

/-! ### Computations that leave the cells alone -/

namespace Eff

variable {α β : Type}

/-- A computation that leaves the cells alone. -/
def Idle (x : Eff α) : Prop := ∀ w, (x.left w).cells = w.cells

namespace Idle

theorem pure (a : α) : Idle (Pure.pure a : Eff α) := fun _ => rfl

theorem bind {x : Eff α} {f : α → Eff β} (hx : Idle x) (hf : ∀ a, Idle (f a)) : Idle (x >>= f) := by
  intro w
  cases hxw : x w with
  | ok a w₁ =>
    have hidle := hx w
    rw [left_of_ok hxw] at hidle
    rw [left_bind_of_ok hxw, hf a w₁, hidle]
  | error signal w₁ =>
    rw [left_of_error (bind_of_error hxw), ← left_of_error hxw]
    exact hx w

theorem get_bind {f : World → Eff α} (hf : ∀ w, Idle (f w)) : Idle (get >>= f) := fun w => hf w w

theorem ite {c : Prop} [Decidable c] {x y : Eff α} (hx : Idle x) (hy : Idle y) :
    Idle (if c then x else y) := by
  split
  · exact hx
  · exact hy

theorem complain (c : Complaint) : Idle (Eff.complain c : Eff α) := fun _ => rfl

theorem exhausted : Idle (Eff.exhausted : Eff α) := fun _ => rfl

theorem ofExcept (r : Except Complaint α) : Idle (Eff.ofExcept r) := by
  cases r with
  | ok a => exact pure a
  | error c => exact complain c

theorem newList (items : Array Value) : Idle (World.newList items) := fun _ => rfl

end Idle

/-- What changes nothing leaves the cells alone. -/
theorem Faint.idle {x : Eff α} (hx : Faint x) : Idle x := fun w => (hx w).cells_eq

end Eff

/-- Multiplying leaves the cells alone. -/
theorem Arithmetic.idle_multiply (a b : Value) : Eff.Idle (multiply a b) := by
  have hrefuse (a b : Value) : Eff.Idle (multiply.refuse a b) :=
    .ite (.complain _) (.ite (.complain _) (.complain _))
  have hrow (v : Value) (n : Int) (a b : Value) : Eff.Idle (multiply.row v n a b) := by
    unfold multiply.row
    split
    · exact .pure _
    · exact .pure _
    · exact .get_bind fun _ => .newList _
    · exact hrefuse a b
  unfold multiply
  split
  · exact .bind (.ofExcept _) fun _ => .pure _
  · exact hrow _ _ _ _
  · exact hrow _ _ _ _
  · exact hrefuse a b

namespace Machine

variable {h : Host} {settings : Settings} {s : State} {w : World}

/-- What is done about a fault leaves the cells alone. -/
theorem idle_mishap (s : State) (m : Mishap) : Eff.Idle (mishap s m) := (faint_mishap s m).idle

/-- A node that is made known in the journal is looked at among the same cells. -/
theorem cells_seen (settings : Settings) (s : State) (w : World) :
    (settings.seen s w).cells = w.cells := (akin_seen settings s w).cells_eq

/-- The cells after an invocation, or as they are if nothing is invoked. -/
def cellsAfter (h : Host) (w : World) : Option (Value × List Value) → Array Value
  | some (f, args) => ((h.invoke f args).left w).cells
  | none => w.cells

/-- A step that is taken touches the cells through what it invokes only. -/
theorem cells_step (hshows : settings.Shows s w) : ((step h settings s).left w).cells =
    cellsAfter h (settings.seen s w) s.invoked? := by
  rw [(akin_step hshows).cells_eq]
  cases s.invoked? with
  | none => rfl
  | some invocation => rfl

/-! ### The operations of a step -/

/-- **The operations that the step from a state completes.**  A step that cannot be written into the
journal completes none. -/
def StepCompletes (h : Host) (settings : Settings) (a : State × World) (ops : List CellOp) : Prop :=
  match a.1.invoked? with
  | some (f, args) =>
    (settings.Shows a.1 a.2 → Completes h f args (settings.seen a.1 a.2) ops) ∧
      (¬ settings.Shows a.1 a.2 → ops = [])
  | none => ops = []

/-- **The step from a state runs no programs to update a cell:** if it performs an update, the function
of the update leaves the cells alone. -/
def QuietStep (h : Host) (settings : Settings) (a : State × World) : Prop :=
  ∀ f args, a.1.invoked? = some (f, args) → QuietUpdate h f args (settings.seen a.1 a.2)

variable {a b start : State × World} {ops ops' : List CellOp}

theorem exists_stepCompletes (hh : h.Obeys Eff.operating) (a : State × World) :
    ∃ ops, StepCompletes h settings a ops := by
  unfold StepCompletes
  split
  · next f args _ =>
    by_cases hshows : settings.Shows a.1 a.2
    · obtain ⟨ops, hops⟩ := exists_completes hh f args (settings.seen a.1 a.2)
      exact ⟨ops, fun _ => hops, fun hnot => absurd hshows hnot⟩
    · exact ⟨[], fun hyes => absurd hyes hshows, fun _ => rfl⟩
  · exact ⟨[], rfl⟩

/-- **The operations of a step lead to the world that it leaves.** -/
theorem StepCompletes.operated (hops : StepCompletes h settings a ops)
    (hquiet : QuietStep h settings a) : a.2.Operated ops ((step h settings a.1).left a.2) := by
  unfold StepCompletes at hops
  by_cases hshows : settings.Shows a.1 a.2
  · have hstep := cells_step (h := h) hshows
    have hseen := cells_seen settings a.1 a.2
    split at hops
    · next f args hinvoked =>
      rw [hinvoked] at hstep
      exact ((hops.1 hshows).operated (hquiet f args hinvoked)).of_cells hseen hstep
    · next hnone =>
      rw [hnone] at hstep
      rw [hops]
      exact .idle (hstep.trans hseen)
  · obtain ⟨fault, hstep⟩ := step_of_not_shows (h := h) hshows
    have hnone : ops = [] := by
      split at hops
      · exact hops.2 hshows
      · exact hops
    rw [Eff.left_of_ok hstep, hnone]
    exact .idle rfl

/-! ### The operations of a run -/

/-- **The operations that a run has completed** when it comes to a state. -/
inductive Records (h : Host) (settings : Settings) (start : State × World) :
    List CellOp → State × World → Prop where
  | start : Records h settings start [] start
  | next {ops ops' : List CellOp} {a b : State × World} (ha : Records h settings start ops a)
      (hab : Next h settings a b) (hops : StepCompletes h settings a ops') :
      Records h settings start (ops ++ ops') b

theorem Records.reaches (hb : Records h settings start ops b) : Reaches h settings start b := by
  induction hb with
  | start => exact .refl
  | next _ hab _ ih => exact ih.tail hab

/-- A run has completed some operations wherever it comes to. -/
theorem exists_records (hh : h.Obeys Eff.operating) (hb : Reaches h settings start b) :
    ∃ ops, Records h settings start ops b := by
  induction hb with
  | refl => exact ⟨[], .start⟩
  | @tail a b _ hab ih =>
    obtain ⟨ops, ha⟩ := ih
    obtain ⟨ops', hops⟩ := exists_stepCompletes hh a
    exact ⟨ops ++ ops', ha.next hab hops⟩

/-- **The operations of a run lead from the world in which it starts to where it has come.** -/
theorem Records.operated (hb : Records h settings start ops b)
    (hquiet : ∀ a, Reaches h settings start a → QuietStep h settings a) :
    start.2.Operated ops b.2 := by
  induction hb with
  | start => exact .idle rfl
  | @next ops ops' a b ha hab hops ih =>
    have hstep := hops.operated (hquiet a ha.reaches)
    rw [Eff.left_of_ok hab] at hstep
    exact ih.trans hstep

/-- **What a run has left of the cells** when it has ended: the operations of all its steps, the last
one included, decide. -/
def StoreLeft (h : Host) (settings : Settings) (start : State × World) (u : World) : Prop :=
  ∃ ops last ops' e s w', Records h settings start ops last ∧ StepCompletes h settings last ops' ∧
    step h settings last.1 last.2 = .ok (.halted e s) w' ∧
    ∀ address, u.cells[address]? = contentAfter (ops ++ ops') address start.2.cells[address]?

/-- **The operations of a run that has ended lead to the world it leaves,** however it has ended. -/
theorem storeLeft_of_drive (hh : h.Obeys Eff.operating)
    (hquiet : ∀ a, Reaches h settings start a → QuietStep h settings a) {fuel : Nat} {e : Ending}
    {w' u : World} (hrun : drive h settings fuel start.1 start.2 = .ok (e, s) w')
    (hu : u.cells = w'.cells) : StoreLeft h settings start u := by
  obtain ⟨last, hlast, hhalts⟩ := exists_reaches_of_drive hrun
  obtain ⟨ops, hops⟩ := exists_records hh hlast
  obtain ⟨ops', hops'⟩ : ∃ ops', StepCompletes h settings last ops' := exists_stepCompletes hh last
  have hstep := hops'.operated (hquiet last hlast)
  rw [Eff.left_of_ok hhalts] at hstep
  have hall := ((hops.operated hquiet).trans hstep).of_cells rfl hu
  exact ⟨ops, last, ops', e, s, w', hops, hops', hhalts, hall.content⟩

/-- A run that is not out of fuel has been driven to its end, and nothing is done to the cells after
that. -/
theorem exists_drive_of_runReport {fuel : Nat} {node : Value} (hnode : node.isNode = true)
    {description : String} (hd : w.ticked.describe? node = .ok description) {u : World}
    (hrun : (∃ r, runReport h fuel settings node w = .ok r u) ∨
      ∃ fault, runReport h fuel settings node w = .error (.raised fault) u) :
    ∃ e s w', drive h settings fuel (.start node) (w.opened description) = .ok (e, s) w' ∧
      u.cells = w'.cells := by
  obtain ⟨e, s, w', hdrive, hu⟩ := exists_akin_drive hnode hd hrun
  exact ⟨e, s, w', hdrive, hu.cells_eq⟩

/-! ### What programs see of the cells -/

/-- What a thunk gives is the value of the action. -/
theorem performed_of_ok {thunk v : Value} {w' : World} (hrun : h.invoke thunk [] w = .ok v w')
    (label : Value) : performed h thunk label w = .ok (.ok v) w' := by
  have hattempt : Eff.attempt (h.invoke thunk []) w = .ok (.ok v) w' := by
    simp only [Eff.attempt, hrun]
  exact Eff.bind_of_ok hattempt

/-- What a thunk raises is the fault of the action. -/
theorem performed_of_raised {thunk : Value} {fault : Fault Value} {w' : World}
    (hrun : h.invoke thunk [] w = .error (.raised fault) w') (label : Value) :
    ∃ name, performed h thunk label w = .ok (.error (fault, name)) w' := by
  have hattempt : Eff.attempt (h.invoke thunk []) w = .ok (.error fault) w' := by
    simp only [Eff.attempt, hrun]
  exact ⟨_, Eff.bind_of_ok hattempt⟩

/-- **The store as a program finds it** in a state of its run, given the operations that the run has
completed. -/
structure StoreAt (h : Host) (settings : Settings) (start : State × World) (ops : List CellOp)
    (b : State × World) : Prop where
  /-- Every cell holds its initial content, to which the operations on it were applied in turn. -/
  content (address : Nat) : b.2.cells[address]? = contentAfter ops address start.2.cells[address]?
  /-- Cells are made with the next free numbers. -/
  made : made ops = List.range' start.2.cells.size (made ops).length
  /-- Reading a cell gives its content and changes nothing. -/
  get {i j address label content} :
    b.1.current = .node i (.delay (.method j (.cell address) .readCell) label) →
    contentAfter ops address start.2.cells[address]? = some content →
    performed h (.method j (.cell address) .readCell) label (settings.seen b.1 b.2) =
      .ok (.ok content) (settings.seen b.1 b.2)
  /-- An update whose function gives a value gives it as well, and it is the new content; no other cell
  is changed. -/
  update {i j address update label old new w'} :
    b.1.current = .node i (.delay (.callback j (.updateCell address update)) label) →
    contentAfter ops address start.2.cells[address]? = some old →
    update.run h old (settings.seen b.1 b.2) = .ok new w' →
    ∃ w'', performed h (.callback j (.updateCell address update)) label (settings.seen b.1 b.2) =
        .ok (.ok new) w'' ∧ w''.cells[address]? = some new ∧
      ∀ other, other ≠ address → w''.cells[other]? = b.2.cells[other]?
  /-- An update whose function raises a fault fails with it and changes no cell. -/
  refusal {i j address update label old fault w'} :
    b.1.current = .node i (.delay (.callback j (.updateCell address update)) label) →
    contentAfter ops address start.2.cells[address]? = some old →
    update.run h old (settings.seen b.1 b.2) = .error (.raised fault) w' →
    (∃ name, performed h (.callback j (.updateCell address update)) label (settings.seen b.1 b.2) =
      .ok (.error (fault, name)) w') ∧ w'.cells = b.2.cells
  /-- A new cell has a number that is greater than those of all cells that there have been. -/
  fresh {i j initial label} : b.1.current = .node i (.delay (.callback j (.newCell initial)) label) →
    ∃ n w', performed h (.callback j (.newCell initial)) label (settings.seen b.1 b.2) =
        .ok (.ok (.cell n)) w' ∧ w'.cells[n]? = some initial ∧
      (∀ k ∈ CellOp.made ops, k < n) ∧ ∀ k old, start.2.cells[k]? = some old → k < n

/-- **At every state of a run, the operations it has completed decide what the cells are.** -/
theorem Records.storeAt (hb : Records h settings start ops b)
    (hquiet : ∀ a, Reaches h settings start a → QuietStep h settings a) :
    StoreAt h settings start ops b := by
  have hops := hb.operated hquiet
  have hcontent := hops.content
  have hseen := cells_seen settings b.1 b.2
  -- what is read in the state is what the operations have made of the cell
  have hread {address : Nat} {content : Value}
      (hcell : contentAfter ops address start.2.cells[address]? = some content) :
      (settings.seen b.1 b.2).cellAt address = content := by
    refine World.cellAt_of_some ?_
    rw [hseen, hcontent, hcell]
  have hidle {i j : Nat} {address : Nat} {update : Update Value} {label : Value}
      (hc : b.1.current = .node i (.delay (.callback j (.updateCell address update)) label)) :
      ((update.run h ((settings.seen b.1 b.2).cellAt address)).left
        (settings.seen b.1 b.2)).cells = b.2.cells := by
    have hinvoked : b.1.invoked? = some (.callback j (.updateCell address update), []) := by
      simp only [State.invoked?, hc]
    exact (hquiet b hb.reaches _ _ hinvoked j address update rfl rfl).trans hseen
  refine ⟨hcontent, hops.made.1, ?_, ?_, ?_, ?_⟩
  · intro i j address label content hc hcell
    refine performed_of_ok ?_ _
    rw [← hread hcell]
    rfl
  · intro i j address update label old new w' hc hcell hrun
    rw [← hread hcell] at hrun
    have hleft := hidle hc
    rw [Eff.left_of_ok hrun] at hleft
    refine ⟨_, performed_of_ok (updateCell_of_ok hrun j) _, ?_, fun other hother => ?_⟩
    · have hthere : b.2.cells[address]? = some old := (hcontent address).trans hcell
      have hsize : address < b.2.cells.size := (Array.getElem?_eq_some_iff.1 hthere).1
      rw [hleft, Array.getElem?_setIfInBounds_self_of_lt hsize]
    · rw [hleft, Array.getElem?_setIfInBounds_ne (Ne.symm hother)]
  · intro i j address update label old fault w' hc hcell hrun
    rw [← hread hcell] at hrun
    have hleft := hidle hc
    rw [Eff.left_of_error hrun] at hleft
    exact ⟨performed_of_raised (updateCell_of_error hrun j) _, hleft⟩
  · intro i j initial label hc
    refine ⟨_, _, performed_of_ok rfl _, Array.getElem?_push_size, ?_, ?_⟩
    · intro k hk
      rw [hops.made.1, List.mem_range'_1] at hk
      rw [hseen, hops.made.2]
      exact hk.2
    · intro k old hk
      have hsize : k < start.2.cells.size := (Array.getElem?_eq_some_iff.1 hk).1
      rw [hseen, hops.made.2]
      exact Nat.lt_add_right _ hsize

end Machine

/-- The number of a cell that is read off it is one more than its place in the store, unless a script
has given it another one. -/
theorem Script.readAttribute_refId {n : Nat} {u : World}
    (hgiven : u.given? (.cell n) "ref_id" = none) :
    Script.readAttribute (.cell n) "ref_id" u = .ok (.int (n + 1)) u := by
  have hown : Script.ownAttribute? (.cell n) "ref_id" u = .ok (some (.int (n + 1))) u := by
    have hfield : Script.field? u (.cell n) "ref_id" = none := by
      rw [Script.field?, hgiven]
      rfl
    rw [Script.ownAttribute?, Eff.bind_get, hfield]
    rfl
  exact Eff.bind_of_ok hown

/-- **Cells are a store.**  Let the functions of a program do nothing to cells but what the nodes that
they run do, and let no update run nodes.  Then at every state of a run every cell holds its initial
content, to which the operations on it that the run has completed were applied in their order; reading
a cell and a completed update give that content; an update whose function raises changes no cell; and a
cell that is made has a greater number than all before it (`StoreAt`).  The same operations decide what
a run leaves behind when it reports, be it a failure, or raises.  What is done to one cell does not
concern another, so operations on different cells commute. -/
theorem cells_store {h : Host} (hh : h.Obeys Eff.operating) (settings : Settings) {node : Value}
    (hnode : node.isNode = true) (w : World) {description : String}
    (hd : w.ticked.describe? node = .ok description)
    (hquiet : ∀ a, Reaches h settings (.start node, w.opened description) a →
      QuietStep h settings a) :
    let start : State × World := (.start node, w.opened description)
    (∀ b, Reaches h settings start b ↔ ∃ ops, Records h settings start ops b) ∧
      (∀ ops b, Records h settings start ops b → StoreAt h settings start ops b) ∧
      (∀ fuel u, ((∃ r, runReport h fuel settings node w = .ok r u) ∨
        ∃ fault, runReport h fuel settings node w = .error (.raised fault) u) →
          StoreLeft h settings start u) ∧
      (∀ n u, u.given? (.cell n) "ref_id" = none →
        Script.readAttribute (.cell n) "ref_id" u = .ok (.int (n + 1)) u) ∧
      ∀ ops op op' ops' address, op.address ≠ op'.address →
        contentAfter (ops ++ op :: op' :: ops') address w.cells[address]? =
          contentAfter (ops ++ op' :: op :: ops') address w.cells[address]? := by
  intro start
  refine ⟨fun b => ⟨fun hb => exists_records hh hb, fun ⟨ops, hb⟩ => hb.reaches⟩,
    fun ops b hb => hb.storeAt hquiet, fun fuel u hrun => ?_,
    fun n u hgiven => Script.readAttribute_refId hgiven,
    fun ops op op' ops' address hop => contentAfter_swap hop⟩
  obtain ⟨e, s, w', hdrive, hu⟩ := exists_drive_of_runReport hnode hd hrun
  exact storeLeft_of_drive hh hquiet hdrive hu

/-- A cell is made with a five and multiplied by three. -/
theorem cells_store_multiply :
    let w := Script.SessionInput.recorded
    let settings := Script.settingsOf w .none (.bool false)
    let node := Value.sequenced (Graph.newCell (.int 5))
      (.thenRun (Graph.updateCell 0 "Ref#1" (.multiply (.int 3))))
    let start : State × World :=
      (.start node, w.opened "FlatMap(Delay, EffectNode.then.<locals>.<lambda>)")
    Host.spent.Obeys Eff.operating ∧ (∀ a, QuietStep .spent settings a) ∧
      ∃ fuel r u, runReport .spent fuel settings node w = .ok r u ∧ r.outcome = .finished (.int 15) ∧
        u.cells[0]? = some (.int 15) ∧ StoreLeft .spent settings start u := by
  intro w settings node start
  have hp : settings.Plain := Settings.plain_settingsOf w
  have hh : Host.spent.Obeys Eff.operating := Host.obeys_spent
  have hquiet (a : State × World) : QuietStep .spent settings a := by
    rintro f args - i address update - -
    cases update with
    | apply f => exact Eff.Idle.exhausted _
    | multiply factor => exact Arithmetic.idle_multiply _ factor _
  have hd : w.ticked.describe? node = .ok "FlatMap(Delay, EffectNode.then.<locals>.<lambda>)" := rfl
  have hmakes : Evaluates .spent (Graph.newCell (.int 5)) start.2 (.value (.cell 0))
      Machine.Counters.zero.acted { start.2 with cells := #[.int 5] } := .action rfl
  have hupdates : Evaluates .spent (Graph.updateCell 0 "Ref#1" (.multiply (.int 3)))
      { start.2 with cells := #[.int 5] } (.value (.int 15)) Machine.Counters.zero.acted
      { start.2 with cells := #[.int 15] } := .action rfl
  have hruns : Runs .spent settings node start.2 (.finished (.int 15)) _ _ :=
    (Evaluates.sequence hmakes rfl hupdates).runs hp
  obtain ⟨fuel, r, hrun, houtcome⟩ := (reports_iff_runs (o := .finished (.int 15)) rfl hd).2
    ⟨_, hruns⟩
  refine ⟨hh, hquiet, fuel, r, _, hrun, houtcome, rfl, ?_⟩
  exact (cells_store hh settings rfl w hd fun a _ => hquiet a).2.2.1 fuel _ (.inl ⟨r, hrun⟩)

end EffectGraph
