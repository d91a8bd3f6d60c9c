import EffectGraph.Proofs.Store

/-!
# Updates whose functions run programs

An update reads its cell, calls its function on the content and writes back what that gives.  The
function may run nodes, and these may operate on the same cell before the write-back.  What a run does
to the cells is then still a list of operations (`operates_runReport`), but the update is no operation of
its own: it comes to the operations of its function, and after them its cell is overwritten
(`UpdateAt`).  The function is not called again, so what the cell was set to in the meantime is lost
(`update_overwrites`).
-/

namespace EffectGraph

open Machine CellOp

/-! ### Runs operate on cells -/

namespace Machine

variable {h : Host} {settings : Settings}

/-- **A step operates on cells** if what it invokes does. -/
theorem operates_step (hh : h.Obeys Eff.operating) (s : State) : Eff.Operates (step h settings s) := by
  intro w
  by_cases hshows : settings.Shows s w
  · have hstep := cells_step (h := h) hshows
    have hseen := cells_seen settings s w
    cases hinvoked : s.invoked? with
    | none =>
      rw [hinvoked] at hstep
      exact ⟨[], .idle (hstep.trans hseen)⟩
    | some invocation =>
      obtain ⟨f, args⟩ := invocation
      obtain ⟨ops, hops⟩ : ∃ ops, World.Operated _ ops _ := hh.invoke f args (settings.seen s w)
      rw [hinvoked] at hstep
      exact ⟨ops, hops.of_cells hseen hstep⟩
  · obtain ⟨fault, hstep⟩ := step_of_not_shows (h := h) hshows
    rw [Eff.left_of_ok hstep]
    exact ⟨[], .idle rfl⟩

theorem operates_drive (hh : h.Obeys Eff.operating) (fuel : Nat) (s : State) :
    Eff.Operates (drive h settings fuel s) := by
  induction fuel generalizing s with
  | zero => exact .of_idle Eff.Idle.exhausted
  | succ fuel ih =>
    refine .bind (operates_step hh s) fun progress => ?_
    cases progress with
    | next s' => exact ih s'
    | halted e s' => exact .of_idle (Eff.Idle.pure _)

/-- What is done once the machine has halted leaves the cells alone. -/
theorem idle_concluded (startTime : Nat) (r : Ending × State) : Eff.Idle (concluded startTime r) :=
  (faint_concluded startTime r).idle

/-- **A run operates on cells,** and so does a function that runs nodes. -/
theorem operates_runReport (hh : h.Obeys Eff.operating) (fuel : Nat) (node : Value) :
    Eff.Operates (runReport h fuel settings node) := by
  intro w
  cases hnode : node.isNode with
  | false =>
    rw [Eff.left_of_error (runReport_of_not_isNode hnode)]
    exact ⟨[], .idle rfl⟩
  | true =>
    cases hd : w.ticked.describe? node with
    | error c =>
      rw [Eff.left_of_error (runReport_of_undescribed hnode hd)]
      exact ⟨[], .idle rfl⟩
    | ok description =>
      have hdriven : Eff.Operates
          (drive h settings fuel (.start node) >>= concluded w.ticked.journal.clock) :=
        .bind (operates_drive hh fuel _) fun r => .of_idle (idle_concluded _ r)
      obtain ⟨ops, hops⟩ := hdriven (w.opened description)
      rw [Eff.left_congr (runReport_of_described hnode hd)]
      exact ⟨ops, hops.of_cells rfl rfl⟩

theorem operates_run (hh : h.Obeys Eff.operating) (fuel : Nat) (node : Value) :
    Eff.Operates (run h fuel settings node) := by
  refine .bind (operates_runReport hh fuel node) fun r => ?_
  cases r.result with
  | ok value => exact .of_idle fun _ => rfl
  | error fault => exact .of_idle fun _ => rfl

/-! ### The write-back -/

/-- **An update as its step carries it out,** given the operations that its function completes before
the write-back. -/
structure UpdateAt (h : Host) (settings : Settings) (s : State) (w : World) (address : Nat)
    (update : Update Value) (old : Value) (ops : List CellOp) : Prop where
  /-- What the write-back finds is what these operations have made of the content that was read. -/
  found : ∃ content, contentAfter ops address (some old) = some content ∧
    ((update.run h old).left (settings.seen s w)).cells[address]? = some content
  /-- If the function gives a value for the content that was read, the step gives this value, and the
  cell is overwritten with it, whatever it holds by then. -/
  value {new w₁} : update.run h old (settings.seen s w) = .ok new w₁ →
    ∃ w₂, step h settings s w =
        .ok (checkLimit settings ⟨.done new, s.stack, s.counters.acted⟩) w₂ ∧
      w₂.cells[address]? = some new ∧
      ∀ other, w₂.cells[other]? = contentAfter (ops ++ [.set address new]) other w.cells[other]?
  /-- If the function raises a fault, it is the fault of the step, and nothing is written back. -/
  refusal {fault w₁} : update.run h old (settings.seen s w) = .error (.raised fault) w₁ →
    (∃ name, step h settings s w = mishap s.counted (fault, name) w₁) ∧
      ∀ other, ((step h settings s).left w).cells[other]? = contentAfter ops other w.cells[other]?
  /-- What is written is the function's value at the content that the write-back finds if and only if it
  is the same as at the content that was read. -/
  agrees {g : Value → Value} {new w₁ content} :
    (∀ c u v u', update.run h c u = .ok v u' → v = g c) →
    update.run h old (settings.seen s w) = .ok new w₁ → w₁.cells[address]? = some content →
    (new = g content ↔ g old = g content)
  /-- Operations on other cells only change nothing about what is found. -/
  undisturbed : (∀ op ∈ ops, op.address ≠ address) →
    ((update.run h old).left (settings.seen s w)).cells[address]? = some old

variable {s : State} {w : World} {i j address : Nat} {update : Update Value} {label old : Value}
  {ops : List CellOp}

/-- The step on an update performs it. -/
theorem step_update (hc : s.current = .node i (.delay (.callback j (.updateCell address update)) label))
    (hshows : settings.Shows s w) : step h settings s w = (do
      match ← performed h (.callback j (.updateCell address update)) label with
      | .ok v => return checkLimit settings ⟨.done v, s.stack, s.counters.acted⟩
      | .error m => mishap s.counted m) (settings.seen s w) := by
  rw [step_eq_dispatch hshows]
  simp only [dispatch, State.counted, hc, perform_eq]
  rfl

/-- **The operations of its function, and then a write,** are what an update comes to. -/
theorem updateAt_of_operated
    (hc : s.current = .node i (.delay (.callback j (.updateCell address update)) label))
    (hold : w.cells[address]? = some old) (hshows : settings.Shows s w)
    (hops : (settings.seen s w).Operated ops ((update.run h old).left (settings.seen s w))) :
    UpdateAt h settings s w address update old ops := by
  have hseen := cells_seen settings s w
  have hread : (settings.seen s w).cellAt address = old :=
    World.cellAt_of_some ((congrArg (·[address]?) hseen).trans hold)
  have hcontent (other : Nat) : ((update.run h old).left (settings.seen s w)).cells[other]? =
      contentAfter ops other w.cells[other]? := by
    rw [hops.content, hseen]
  obtain ⟨content, hthere⟩ := exists_contentAfter ops address old
  have hfound : ((update.run h old).left (settings.seen s w)).cells[address]? = some content := by
    rw [hcontent, hold, hthere]
  have hstep := step_update (h := h) hc hshows
  refine ⟨⟨content, hthere, hfound⟩, ?_, ?_, ?_, ?_⟩
  · intro new w₁ hrun
    rw [Eff.left_of_ok hrun] at hfound hops
    rw [← hread] at hrun
    have hperformed := performed_of_ok (updateCell_of_ok hrun j) label
    refine ⟨_, hstep.trans (Eff.bind_of_ok hperformed), ?_, fun other => ?_⟩
    · have hsize : address < w₁.cells.size := (Array.getElem?_eq_some_iff.1 hfound).1
      exact Array.getElem?_setIfInBounds_self_of_lt hsize
    · have hwrite : w₁.Operated [.set address new]
          { w₁ with cells := w₁.cells.setIfInBounds address new } := .set address new rfl
      rw [(hops.trans hwrite).content, hseen]
  · intro fault w₁ hrun
    have hleft := hcontent
    rw [Eff.left_of_error hrun] at hleft
    rw [← hread] at hrun
    obtain ⟨name, hperformed⟩ := performed_of_raised (updateCell_of_error hrun j) label
    have hmishap := hstep.trans (Eff.bind_of_ok hperformed)
    refine ⟨⟨name, hmishap⟩, fun other => ?_⟩
    have hidle : ((step h settings s).left w).cells = w₁.cells := by
      rw [Eff.left_congr hmishap]
      exact idle_mishap _ _ w₁
    rw [hidle, hleft]
  · intro g new w₁ content' hg hrun _
    rw [hg _ _ _ _ hrun]
  · intro hothers
    rw [hcontent, hold, contentAfter_of_forall_ne hothers]

/-- **An update overwrites what its function has done to the cell.**  Its function is called once, on
the content that is read; what the operations of the function have made of the cell before the
write-back is lost, and what they have made of other cells stays (`UpdateAt`).  So if the function runs a
node, of all that this run leaves behind only this cell is not as the run has left it.  The library's
own updates run nothing. -/
theorem update_overwrites (hh : h.Obeys Eff.operating)
    (hc : s.current = .node i (.delay (.callback j (.updateCell address update)) label))
    (hold : w.cells[address]? = some old) (hshows : settings.Shows s w) :
    (∃ ops, (settings.seen s w).Operated ops ((update.run h old).left (settings.seen s w))) ∧
      (∀ ops, (settings.seen s w).Operated ops ((update.run h old).left (settings.seen s w)) →
        UpdateAt h settings s w address update old ops) ∧
      (∀ (h' : Host) (settings' : Settings) (fuel : Nat) (n : Value) (description : String) (u : World)
        (new : Value) (w₁ : World),
        h'.Obeys Eff.operating → n.isNode = true →
        (settings.seen s w).ticked.describe? n = .ok description →
        (∀ a, Reaches h' settings' (.start n, (settings.seen s w).opened description) a →
          QuietStep h' settings' a) →
        ((∃ r, runReport h' fuel settings' n (settings.seen s w) = .ok r u) ∨
          ∃ fault, runReport h' fuel settings' n (settings.seen s w) = .error (.raised fault) u) →
        update.run h old (settings.seen s w) = .ok new w₁ → w₁.cells = u.cells →
        StoreLeft h' settings' (.start n, (settings.seen s w).opened description) u ∧
          ∃ w₂, step h settings s w =
              .ok (checkLimit settings ⟨.done new, s.stack, s.counters.acted⟩) w₂ ∧
            w₂.cells[address]? = some new ∧
            ∀ other, other ≠ address → w₂.cells[other]? = u.cells[other]?) ∧
      ∀ factor, update = .multiply factor →
        ((update.run h old).left (settings.seen s w)).cells = w.cells := by
  have hexists : ∃ ops, (settings.seen s w).Operated ops
      ((update.run h old).left (settings.seen s w)) := update.obeys_run hh.observes old (settings.seen s w)
  have hall (ops : List CellOp)
      (hops : (settings.seen s w).Operated ops ((update.run h old).left (settings.seen s w))) :=
    updateAt_of_operated hc hold hshows hops
  refine ⟨hexists, hall, ?_, ?_⟩
  · intro h' settings' fuel n description u new w₁ hh' hn hd hquiet hnested hrun hu
    obtain ⟨e, s', w', hdrive, hcells⟩ := exists_drive_of_runReport hn hd hnested
    obtain ⟨ops, hops⟩ := hexists
    obtain ⟨w₂, hstep, hnew, hothers⟩ := (hall ops hops).value hrun
    have hleft : StoreLeft h' settings' (.start n, (settings.seen s w).opened description) u :=
      storeLeft_of_drive hh' hquiet hdrive hcells
    refine ⟨hleft, w₂, hstep, hnew, fun other hother => ?_⟩
    rw [Eff.left_of_ok hrun] at hops
    have hwrite : contentAfter [.set address new] other (contentAfter ops other w.cells[other]?) =
        contentAfter ops other w.cells[other]? :=
      contentAfter_other (.set address new) (Ne.symm hother)
    rw [hothers, contentAfter_append, hwrite, ← hu, hops.content, cells_seen]
  · rintro factor rfl
    exact (Arithmetic.idle_multiply old factor _).trans (cells_seen settings s w)

end Machine

/-- A node that sets a cell is run in two steps. -/
theorem Machine.run_setCell (h : Host) {settings : Settings} (hp : settings.Plain) (address : Nat)
    (content : Value) (w : World) : ∃ u, Machine.run h 2 settings
        (Graph.setCell address "Ref#1" content) w = .ok .none u ∧
      u.cells = w.cells.setIfInBounds address content := by
  have hd : w.ticked.describe? (Graph.setCell address "Ref#1" content) =
      .ok "Delay(Ref#1.set)" := rfl
  have hwrites (u : World) : performed h (.ofCallback (.writeCell address content)) (.str "Ref#1.set") u =
      .ok (.ok .none) { u with cells := u.cells.setIfInBounds address content } := rfl
  have hdrive (u : World) : drive h settings 2 (.start (Graph.setCell address "Ref#1" content)) u =
      .ok (.finished .none, _) { u with cells := u.cells.setIfInBounds address content } :=
    (drive_of_next (next_action hp (hwrites u) 0 .empty .zero)).trans
      (drive_of_halted (step_finished hp 0 .none _ _))
  have hconcluded (u : World) (s : State) :=
    concluded_of_outcome (.finished .none) w.ticked.journal.clock s u
  have hreport : runReport h 2 settings (Graph.setCell address "Ref#1" content) w = .ok _ _ :=
    (runReport_of_described rfl hd).trans ((Eff.bind_of_ok (hdrive _)).trans (hconcluded _ _))
  exact ⟨_, Eff.bind_of_ok hreport, rfl⟩

/-- A host whose functions run a node and then add one to what they are given. -/
def Host.running (settings : Settings) (node : Value) : Host :=
  { Host.spent with
    call := fun _ args _ => do
      let _ ← Machine.run .spent 2 settings node
      Arithmetic.increase (args.headD .none) (.int 1) }

theorem Host.operating_running (settings : Settings) (node : Value) :
    (Host.running settings node).Obeys Eff.operating :=
  { Host.obeys_spent with
    call := fun _ args _ => Eff.Operates.bind (operates_run Host.obeys_spent 2 node) fun _ =>
      Arithmetic.honours_increase (m := Eff.operating.custom.manner) (args.headD .none) (.int 1) }

/-- The function of an update sets its cell to ten.  At ten it gives eleven, but a two is written. -/
theorem update_overwrites_set :
    let w := { Script.SessionInput.recorded with cells := #[.int 1] }
    let settings := Script.settingsOf w .none (.bool false)
    let h := Host.running settings (Graph.setCell 0 "Ref#1" (.int 10))
    let update : Update Value := .apply (.operation .length)
    let s := State.start (Graph.updateCell 0 "Ref#1" update)
    h.Obeys Eff.operating ∧ settings.Shows s w ∧ settings.seen s w = w ∧
      ∃ w₁ w₂ u, update.run h (.int 1) w = .ok (.int 2) w₁ ∧ w₁.cells[0]? = some (.int 10) ∧
        update.run h (.int 10) w₁ = .ok (.int 11) u ∧
        step h settings s w = .ok (.next ⟨.done (.int 2), .empty, Machine.Counters.zero.acted⟩) w₂ ∧
        w₂.cells[0]? = some (.int 2) := by
  intro w settings h update s
  have hp : settings.Plain := Settings.plain_settingsOf w
  have hh : h.Obeys Eff.operating := Host.operating_running _ _
  have hshows : settings.Shows s w := fun ht => nomatch ht
  obtain ⟨w₁, hset, hcells⟩ := run_setCell .spent hp 0 (.int 10) w
  obtain ⟨u, hagain, -⟩ := run_setCell .spent hp 0 (.int 10) w₁
  have hgives : update.run h (.int 1) w = .ok (.int 2) w₁ := Eff.bind_of_ok hset
  have hfound : w₁.cells[0]? = some (.int 10) := by rw [hcells]; rfl
  obtain ⟨⟨ops, hops⟩, hall, -⟩ := update_overwrites (s := s) hh rfl
    (rfl : w.cells[0]? = some (.int 1)) hshows
  obtain ⟨w₂, hstep, hnew, -⟩ := (hall ops hops).value hgives
  exact ⟨hh, hshows, rfl, w₁, w₂, u, hgives, hfound, Eff.bind_of_ok hagain, hstep, hnew⟩

end EffectGraph
