import Mathlib.Logic.Relation
import EffectGraph.Script.Settings

/-!
# One step, and the states that steps lead to

The equations of the machine without a limit and without tracing: what one step does to each form of
node above any stack.  They say everything about a step that later modules use, so that none of them
opens `step` again.

Two actions of the machine reach the host.  `applied` invokes a continuation on a value and gives the
node it returned or the fault to handle, with the name that the fault is reported under; `performed`
does the same for a thunk.  `Reaches` is the order in which states and worlds follow each other.
-/

namespace EffectGraph

/-! ### Computations in a world -/

namespace Eff

variable {α β : Type} {x : Eff α} {f : α → Eff β} {w w' : World}

/-- What follows a computation that gave a value starts from that value. -/
theorem bind_of_ok {a : α} (hx : x w = .ok a w') : (x >>= f) w = f a w' := by
  simp only [bind, EStateM.bind, hx]

/-- Nothing follows a computation that stopped. -/
theorem bind_of_error {e : Signal} (hx : x w = .error e w') : (x >>= f) w = .error e w' := by
  simp only [bind, EStateM.bind, hx]

/-- A sequence that gave a value gave one in both parts. -/
theorem exists_of_bind_ok {b : β} (hb : (x >>= f) w = .ok b w') :
    ∃ a w₁, x w = .ok a w₁ ∧ f a w₁ = .ok b w' := by
  cases hx : x w with
  | ok a w₁ =>
    rw [bind_of_ok hx] at hb
    exact ⟨a, w₁, rfl, hb⟩
  | error e w₁ =>
    rw [bind_of_error hx] at hb
    cases hb

/-- A sequence that stopped did so in one of its parts. -/
theorem of_bind_error {e : Signal} (hb : (x >>= f) w = .error e w') :
    x w = .error e w' ∨ ∃ a w₁, x w = .ok a w₁ ∧ f a w₁ = .error e w' := by
  cases hx : x w with
  | ok a w₁ =>
    rw [bind_of_ok hx] at hb
    exact .inr ⟨a, w₁, rfl, hb⟩
  | error e' w₁ =>
    rw [bind_of_error hx] at hb
    cases hb
    exact .inl rfl

/-- What looks at the world is given it. -/
theorem bind_get {f : World → Eff β} : ((get : Eff World) >>= f) w = f w w := rfl

/-- An answer that is no complaint is given. -/
theorem ofExcept_of_ok {r : Except Complaint α} {a : α} (hr : r = .ok a) : ofExcept r w = .ok a w := by
  rw [hr]
  rfl

/-- A complaint is raised. -/
theorem ofExcept_of_error {r : Except Complaint α} {c : Complaint} (hr : r = .error c) :
    ofExcept r w = .error (.raised c.fault) w := by
  rw [hr]
  rfl

/-- An answer that was given is no complaint. -/
theorem of_ofExcept_ok {r : Except Complaint α} {a : α} (ha : ofExcept r w = .ok a w') :
    r = .ok a ∧ w' = w := by
  cases r with
  | ok b =>
    cases ha
    exact ⟨rfl, rfl⟩
  | error c => cases ha

/-- What follows two computations that do the same is the same. -/
theorem bind_eq_of_eq {y : Eff α} (hxy : x w = y w) : (x >>= f) w = (y >>= f) w := by
  simp only [bind, EStateM.bind, hxy]

/-- A changed value is what a computation gave. -/
theorem map_of_ok {g : α → β} {a : α} (hx : x w = .ok a w') : (g <$> x) w = .ok (g a) w' := by
  simp only [Functor.map, EStateM.map, hx]

theorem map_of_error {g : α → β} {e : Signal} (hx : x w = .error e w') :
    (g <$> x) w = .error e w' := by
  simp only [Functor.map, EStateM.map, hx]

theorem exists_of_map_ok {g : α → β} {b : β} (hb : (g <$> x) w = .ok b w') :
    ∃ a w₁, x w = .ok a w₁ ∧ g a = b ∧ w₁ = w' := by
  cases hx : x w with
  | ok a w₁ =>
    rw [map_of_ok hx] at hb
    cases hb
    exact ⟨a, w', rfl, rfl, rfl⟩
  | error e w₁ =>
    rw [map_of_error hx] at hb
    cases hb

/-- An attempt gives what is given or raised in it. -/
theorem attempt_of_ok {a : α} (hx : x w = .ok a w') : attempt x w = .ok (.ok a) w' := by
  rw [attempt, hx]

theorem attempt_of_raised {fault : Fault Value} (hx : x w = .error (.raised fault) w') :
    attempt x w = .ok (.error fault) w' := by
  rw [attempt, hx]

/-- What was attempted and gave a value gave it. -/
theorem ok_of_attempt {a : α} (hx : attempt x w = .ok (.ok a) w') : x w = .ok a w' := by
  unfold attempt at hx
  split at hx
  · next hxw =>
    cases hx
    exact hxw
  · cases hx
  · cases hx

end Eff

/-- Is this a node of one of the variants that the machine knows? -/
def Value.isKnown : Value → Bool
  | .node _ (.done _) => true
  | .node _ (.delay _ _) => true
  | .node _ (.flatMap _ _) => true
  | .node _ (.recover _ _) => true
  | _ => false

namespace Machine

/-! ### The two actions that reach the host -/

/-- The fault that a callback ended with, and the name or label it is reported under. -/
abbrev Mishap := Fault Value × Value

/-- **Invokes a continuation once** on a value.  It gives a node; a fault it raises and a value that
is no node are mishaps under its name. -/
def applied (h : Host) (f v : Value) : Eff (Except Mishap Value) := do
  match ← Eff.attempt (h.invoke f [v]) with
  | .error fault => return .error (fault, (← get).callableName f)
  | .ok next =>
    if next.isNode then return .ok next
    else return .error ((Complaint.continuationGave next.typeName).fault, (← get).callableName f)

/-- **Invokes a thunk once.**  It gives any value; a fault it raises is a mishap under the label of
the action, or the thunk's name where there is nothing to the label. -/
def performed (h : Host) (thunk label : Value) : Eff (Except Mishap Value) := do
  match ← Eff.attempt (h.invoke thunk []) with
  | .error fault =>
    let w ← get
    return .error (fault, if w.isTruthy label then label else w.callableName thunk)
  | .ok value => return .ok value

/-- The message that a boundary has caught a failure. -/
def recoveryNote (fault : Fault Value) (label : Value) (dropped : Nat) : Eff Unit :=
  World.note fun w => do
    return "Recovering from " ++ fault.kind.name ++ " in " ++ (← w.str? label) ++ " (" ++
      dropped.repr ++ " continuation(s) discarded)"

/-- The place and the cause of a failure in words, or the complaint that refuses them. -/
def words (w : World) (fault : Fault Value) (label : Value) : Except Complaint (String × String) := do
  let place ← if w.isTruthy label then w.str? label else .ok ""
  let cause ← w.str? (.fault fault)
  return (place, cause)

/-- The report of a failure in a world, or the complaint that refuses its wording. -/
def worded (w : World) (fault : Fault Value) (label : Value) (step discarded : Nat) :
    Except Complaint Failure :=
  (words w fault label).map fun (place, cause) =>
    { cause := fault, label, step, discarded
      message :=
        Failure.wording (w.isTruthy label) place fault.kind.name cause step.repr discarded.repr }

/-- Reporting a failure changes nothing. -/
theorem report_apply (fault : Fault Value) (label : Value) (step discarded : Nat) (w : World) :
    report fault label step discarded w = .ok (worded w fault label step discarded) w := by
  unfold worded words
  change EStateM.Result.ok _ w = _
  congr 1
  split
  · cases w.str? label with
    | error c => rfl
    | ok place => cases w.str? (.fault fault) <;> rfl
  · cases w.str? (.fault fault) <;> rfl

/-! ### Counters after a step -/

namespace Counters

/-- One more step. -/
def stepped (c : Counters) : Counters := { c with totalSteps := c.totalSteps + 1 }

/-- One more step, which left a stack of the given depth. -/
def entered (c : Counters) (depth : Nat) : Counters :=
  { c with totalSteps := c.totalSteps + 1, maxStackDepth := max c.maxStackDepth depth }

/-- One more step, which invoked a continuation. -/
def invoked (c : Counters) : Counters :=
  { c with totalSteps := c.totalSteps + 1, totalContinuations := c.totalContinuations + 1 }

/-- One more step, which performed an action. -/
def acted (c : Counters) : Counters :=
  { c with totalSteps := c.totalSteps + 1, totalEffects := c.totalEffects + 1 }

/-- Some more frames dropped. -/
def dropping (c : Counters) (n : Nat) : Counters :=
  { c with discardedContinuations := c.discardedContinuations + n }

/-- One more failure caught, for which some frames were dropped. -/
def caught (c : Counters) (n : Nat) : Counters :=
  { c.dropping n with totalRecoveries := c.totalRecoveries + 1 }

end Counters

/-! ### Steps of the plain machine -/

/-- Settings with neither a limit on the stack nor tracing. -/
structure Settings.Plain (settings : Settings) : Prop where
  unbounded : settings.bound = .unlimited
  untraced : ∀ w, World.isTruthy w settings.trace = false

/-- An interpreter without a limit that is not to trace runs plainly. -/
theorem Settings.plain_settingsOf (w : World) :
    (Script.settingsOf w .none (.bool false)).Plain := ⟨rfl, fun _ => rfl⟩

variable {h : Host} {settings : Settings}

/-- Without a limit every state is gone on with. -/
theorem checkLimit_of_unbounded (hb : settings.bound = .unlimited) (s : State) :
    checkLimit settings s = .next s := by
  simp only [checkLimit, hb]

/-- Without tracing a step is counted and then looks at the current node. -/
theorem step_of_untraced (ht : ∀ w, World.isTruthy w settings.trace = false) (s : State) :
    step h settings s = dispatch h settings s.counted := by
  funext w
  rw [step, Eff.bind_get, ht]
  rfl

/-- Where a fault with its name or label leads. -/
def mishap (s : State) (m : Mishap) : Eff Progress := handleFault s m.1 m.2

/-- A continuation is invoked, and then its node is next or its mishap is dealt with. -/
theorem continueWith_eq (s : State) (f v : Value) :
    continueWith h settings s f v = (do
      let s := { s with
        counters := { s.counters with totalContinuations := s.counters.totalContinuations + 1 } }
      match ← applied h f v with
      | .ok node => return checkLimit settings { s with current := node }
      | .error m => mishap s m) := by
  funext w
  simp only [continueWith, applied, mishap, bind_assoc]
  cases hx : Eff.attempt (h.invoke f [v]) w with
  | error e w' => rw [Eff.bind_of_error hx, Eff.bind_of_error hx]
  | ok r w' =>
    rw [Eff.bind_of_ok hx, Eff.bind_of_ok hx]
    cases r with
    | error fault => rfl
    | ok node => by_cases hn : node.isNode <;> simp only [hn] <;> rfl

/-- A thunk is invoked, and then its value is next or its mishap is dealt with. -/
theorem perform_eq (s : State) (thunk label : Value) :
    perform h settings s thunk label = (do
      match ← performed h thunk label with
      | .ok v => return checkLimit settings { s with
          current := .done v
          counters := { s.counters with totalEffects := s.counters.totalEffects + 1 } }
      | .error m => mishap s m) := by
  funext w
  simp only [perform, performed, mishap, bind_assoc]
  cases hx : Eff.attempt (h.invoke thunk []) w with
  | error e w' => rw [Eff.bind_of_error hx, Eff.bind_of_error hx]
  | ok r w' =>
    rw [Eff.bind_of_ok hx, Eff.bind_of_ok hx]
    cases r <;> rfl

/-- What is no node of a known variant makes the machine give up. -/
theorem dispatch_unknown {s : State} (hs : s.current.isKnown = false) :
    dispatch h settings s =
      pure (.halted (.aborted (.unknownVariant s.current.typeName)) s.cleared) := by
  obtain ⟨v, B, c⟩ := s
  cases v with
  | node i n =>
    cases n with
    | foreign variant => rfl
    | done _ | delay _ _ | flatMap _ _ | recover _ _ => cases hs
  | _ => rfl

/-! ### Faults -/

/-- Continuations on top are dropped one by one. -/
theorem Stack.unwindFrames_append {fs : List (Frame Value)} (hfs : ∀ f ∈ fs, f.isBoundary = false)
    (rest : List (Frame Value)) (n : Nat) :
    unwindFrames (fs ++ rest) n = unwindFrames rest (fs.length + n) := by
  induction fs generalizing n with
  | nil => rw [List.nil_append, List.length_nil, Nat.zero_add]
  | cons f fs ih =>
    cases f with
    | boundary g => cases hfs _ List.mem_cons_self
    | continuation _ =>
      rw [List.cons_append, unwindFrames, ih fun f hf => hfs f (List.mem_cons_of_mem _ hf),
        List.length_cons, Nat.add_assoc, Nat.add_comm n]

/-- Continuations above a boundary are dropped with it. -/
theorem Stack.unwind_of_boundary {s rest : Stack} {fs : List (Frame Value)} {g : Value}
    (hs : s.frames = fs ++ .boundary g :: rest.frames) (hfs : ∀ f ∈ fs, f.isBoundary = false) :
    s.unwind = ⟨fs.length, some (g, rest)⟩ := by
  rw [unwind, hs, unwindFrames_append hfs]
  exact congrArg (fun r => (⟨fs.length, some (g, r)⟩ : Unwound)) (ext_frames rfl)

/-- Where there are only continuations, all are dropped. -/
theorem Stack.unwind_of_continuations {s : Stack} (hs : ∀ f ∈ s.frames, f.isBoundary = false) :
    s.unwind = ⟨s.frames.length, none⟩ := by
  rw [unwind, ← List.append_nil s.frames, unwindFrames_append hs, List.append_nil]
  rfl

/-- An interrupt ends the run. -/
theorem mishap_of_interrupt {s : State} {m : Mishap} (hm : m.1.kind.isFailure = false) (w : World) :
    mishap s m w = .ok (.halted (.interrupted m.1) s) w := by
  simp only [mishap, handleFault, hm]
  rfl

/-- A failure that a boundary catches is noted and handed to the boundary's handler. -/
theorem mishap_of_landing {s : State} {m : Mishap} {dropped : Nat} {g : Value} {rest : Stack}
    (hm : m.1.kind.isFailure = true) (hs : s.stack.unwind = ⟨dropped, some (g, rest)⟩) :
    mishap s m = (do
      match ← Eff.attempt (recoveryNote m.1 m.2 dropped) with
      | .ok _ => return .next (s.recovered m.1 dropped g rest)
      | .error refusal => return .halted (.interrupted refusal) s) := by
  simp only [mishap, handleFault, hm, hs]
  rfl

/-- A failure that is caught and noted is gone on with. -/
theorem mishap_of_noted {s : State} {m : Mishap} {dropped : Nat} {g : Value} {rest : Stack}
    {w w' : World} (hm : m.1.kind.isFailure = true) (hs : s.stack.unwind = ⟨dropped, some (g, rest)⟩)
    (hnote : recoveryNote m.1 m.2 dropped w = .ok () w') :
    mishap s m w = .ok (.next (s.recovered m.1 dropped g rest)) w' := by
  have hattempt : Eff.attempt (recoveryNote m.1 m.2 dropped) w = .ok (.ok ()) w' := by
    simp only [Eff.attempt, hnote]
  rw [mishap_of_landing hm hs, Eff.bind_of_ok hattempt]
  rfl

/-- A failure that no boundary catches ends the run with a report, unless its wording is refused. -/
theorem mishap_of_no_landing {s : State} {m : Mishap} {dropped : Nat}
    (hm : m.1.kind.isFailure = true) (hs : s.stack.unwind = ⟨dropped, none⟩) (w : World) :
    mishap s m w =
      .ok (.halted (match worded w m.1 m.2 s.counters.totalSteps dropped with
        | .ok failure => .failed failure
        | .error c => .interrupted c.fault) (s.uncaught dropped)) w := by
  simp only [mishap, handleFault, hm, hs]
  change (do
    match ← report m.1 m.2 s.counters.totalSteps dropped with
    | .ok failure => return Progress.halted (.failed failure) (s.uncaught dropped)
    | .error c => return Progress.halted (.interrupted c.fault) (s.uncaught dropped) : Eff _) w = _
  rw [Eff.bind_of_ok (report_apply _ _ _ _ w)]
  cases worded w m.1 m.2 s.counters.totalSteps dropped <;> rfl

/-- Without frames a mishap halts the machine. -/
theorem exists_halted_of_mishap (n : Value) (c : Counters) (m : Mishap) (u : World) :
    ∃ e s, mishap ⟨n, .empty, c⟩ m u = .ok (.halted e s) u := by
  cases hfault : m.1.kind.isFailure with
  | true => exact ⟨_, _, mishap_of_no_landing hfault rfl u⟩
  | false => exact ⟨_, _, mishap_of_interrupt hfault u⟩

/-! ### Reachable states -/

/-- One state and world lead to the next ones in one step. -/
def Next (h : Host) (settings : Settings) (a b : State × World) : Prop :=
  step h settings a.1 a.2 = .ok (.next b.1) b.2

/-- One state and world lead to others in any number of steps. -/
abbrev Reaches (h : Host) (settings : Settings) : State × World → State × World → Prop :=
  Relation.ReflTransGen (Next h settings)

/-- A run that ends from a state that is reached ends from where it was reached. -/
theorem Reaches.drive {a b : State × World} (hab : Reaches h settings a b) {fuel : Nat}
    {r : Ending × State} {w : World} (hb : Machine.drive h settings fuel b.1 b.2 = .ok r w) :
    ∃ fuel', Machine.drive h settings fuel' a.1 a.2 = .ok r w := by
  induction hab using Relation.ReflTransGen.head_induction_on with
  | refl => exact ⟨fuel, hb⟩
  | head hstep _ ih =>
    obtain ⟨fuel', hc⟩ := ih
    exact ⟨fuel' + 1, (drive_of_next hstep).trans hc⟩

/-- A step that halts ends the run from wherever it was reached. -/
theorem Reaches.drive_halted {a b : State × World} (hab : Reaches h settings a b) {e : Ending}
    {s : State} {w : World} (hb : step h settings b.1 b.2 = .ok (.halted e s) w) :
    ∃ fuel, Machine.drive h settings fuel a.1 a.2 = .ok (e, s) w :=
  have hone : Machine.drive h settings 1 b.1 b.2 = .ok (e, s) w := drive_of_halted hb
  hab.drive hone

/-- A run that ends passes through every state that it reaches. -/
theorem Reaches.drive_rest {a b : State × World} (hab : Reaches h settings a b) {fuel : Nat}
    {r : Ending × State} {w : World} (ha : Machine.drive h settings fuel a.1 a.2 = .ok r w) :
    ∃ fuel' ≤ fuel, Machine.drive h settings fuel' b.1 b.2 = .ok r w := by
  induction hab using Relation.ReflTransGen.head_induction_on generalizing fuel with
  | refl => exact ⟨fuel, Nat.le_refl fuel, ha⟩
  | head hstep _ ih =>
    cases fuel with
    | zero => cases ha
    | succ fuel =>
      rw [drive_of_next hstep] at ha
      obtain ⟨fuel', hle, hb⟩ := ih ha
      exact ⟨fuel', Nat.le_succ_of_le hle, hb⟩

/-! ### Steps without a limit and without tracing -/

variable (hp : settings.Plain)
include hp

/-- A sequence puts its continuation on the stack and turns to its source. -/
theorem next_sequence (i : Nat) (source f : Value) (B : Stack) (c : Counters) (w : World) :
    Next h settings (⟨.node i (.flatMap source f), B, c⟩, w)
      (⟨source, B.push (.continuation f), c.entered (B.depth + 1)⟩, w) := by
  rw [Next, step_of_untraced hp.untraced]
  simp only [dispatch, State.counted, checkLimit_of_unbounded hp.unbounded]
  rfl

/-- A guarded node puts its boundary on the stack and turns to its source. -/
theorem next_region (i : Nat) (source g : Value) (B : Stack) (c : Counters) (w : World) :
    Next h settings (⟨.node i (.recover source g), B, c⟩, w)
      (⟨source, B.push (.boundary g), c.entered (B.depth + 1)⟩, w) := by
  rw [Next, step_of_untraced hp.untraced]
  simp only [dispatch, State.counted, checkLimit_of_unbounded hp.unbounded]
  rfl

/-- A finished node passes a boundary. -/
theorem next_boundary (i : Nat) (v g : Value) (B : Stack) (c : Counters) (w : World) :
    Next h settings (⟨.node i (.done v), B.push (.boundary g), c⟩, w)
      (⟨.node i (.done v), B, c.stepped⟩, w) := by
  rw [Next, step_of_untraced hp.untraced]
  rfl

/-- A finished node without frames ends the run. -/
theorem step_finished (i : Nat) (v : Value) (c : Counters) (w : World) :
    step h settings ⟨.node i (.done v), .empty, c⟩ w =
      .ok (.halted (.finished v) ⟨.node i (.done v), .empty, c.stepped⟩) w := by
  rw [step_of_untraced hp.untraced]
  rfl

/-- A finished node hands its value to a continuation. -/
theorem step_continuation (i : Nat) (v f : Value) (B : Stack) (c : Counters) :
    step h settings ⟨.node i (.done v), B.push (.continuation f), c⟩ = (do
      match ← applied h f v with
      | .ok node => return .next ⟨node, B, c.invoked⟩
      | .error m => mishap ⟨.node i (.done v), B, c.invoked⟩ m) := by
  rw [step_of_untraced hp.untraced]
  simp only [dispatch, State.counted, Stack.pop?_push, continueWith_eq,
    checkLimit_of_unbounded hp.unbounded]
  rfl

/-- The node that a continuation gives is next. -/
theorem next_continuation {v f node : Value} {w w' : World}
    (hf : applied h f v w = .ok (.ok node) w') (i : Nat) (B : Stack) (c : Counters) :
    Next h settings (⟨.node i (.done v), B.push (.continuation f), c⟩, w)
      (⟨node, B, c.invoked⟩, w') := by
  rw [Next, step_continuation hp, Eff.bind_of_ok hf]
  rfl

/-- A suspended action is performed. -/
theorem step_action (i : Nat) (thunk label : Value) (B : Stack) (c : Counters) :
    step h settings ⟨.node i (.delay thunk label), B, c⟩ = (do
      match ← performed h thunk label with
      | .ok v => return .next ⟨.done v, B, c.acted⟩
      | .error m => mishap ⟨.node i (.delay thunk label), B, c.stepped⟩ m) := by
  rw [step_of_untraced hp.untraced]
  simp only [dispatch, State.counted, perform_eq, checkLimit_of_unbounded hp.unbounded]
  rfl

/-- The node finished with the value of an action is next. -/
theorem next_action {thunk label v : Value} {w w' : World}
    (hrun : performed h thunk label w = .ok (.ok v) w') (i : Nat) (B : Stack) (c : Counters) :
    Next h settings (⟨.node i (.delay thunk label), B, c⟩, w) (⟨.node 0 (.done v), B, c.acted⟩, w') := by
  rw [Next, step_action hp, Eff.bind_of_ok hrun]
  rfl

/-- What is no node of a known variant ends the run and drops every frame. -/
theorem step_unknown {v : Value} (hv : v.isKnown = false) (B : Stack) (c : Counters) (w : World) :
    step h settings ⟨v, B, c⟩ w = .ok (.halted (.aborted (.unknownVariant v.typeName))
      ⟨v, .empty, c.stepped.dropping B.depth⟩) w := by
  rw [step_of_untraced hp.untraced, dispatch_unknown hv]
  rfl

end Machine
end EffectGraph
