import Mathlib.Order.Bounds.Defs
import EffectGraph.Proofs.History
import EffectGraph.Proofs.Limit

/-!
# The ledger of a run

Every frame on the stack was put there by a step that found a sequence or a guarded node, and leaves
it once: a continuation is invoked or dropped, a boundary is passed or catches a failure.  `visit`
says what a step does to the node that it finds, and `Balanced` is the ledger: the counters of a state
against the visits of its history.  A move keeps the ledger balanced (`Balanced.move`), whatever the
limit, and so it is in every state of every run and at its end (`frames_accounted`).
-/

namespace EffectGraph

open Machine

namespace Machine

/-! ### Frames by kind -/

namespace Stack

variable {s rest : Stack} {f g : Value}

/-- How many continuations wait on the stack. -/
def continuations (s : Stack) : Nat := s.frames.countP fun k => !k.isBoundary

/-- How many boundaries are on the stack. -/
def boundaries (s : Stack) : Nat := s.frames.countP Frame.isBoundary

/-- How many continuations wait above the topmost boundary, or at all if there is none. -/
def exposed (s : Stack) : Nat := (s.frames.takeWhile fun k => !k.isBoundary).length

@[simp]
theorem continuations_push_continuation :
    (s.push (.continuation f)).continuations = s.continuations + 1 := List.countP_cons_of_pos rfl

@[simp]
theorem continuations_push_boundary : (s.push (.boundary g)).continuations = s.continuations :=
  List.countP_cons_of_neg (Bool.eq_false_iff.mp rfl)

@[simp]
theorem boundaries_push_continuation : (s.push (.continuation f)).boundaries = s.boundaries :=
  List.countP_cons_of_neg (Bool.eq_false_iff.mp rfl)

@[simp]
theorem boundaries_push_boundary : (s.push (.boundary g)).boundaries = s.boundaries + 1 :=
  List.countP_cons_of_pos rfl

@[simp]
theorem continuations_empty : empty.continuations = 0 := rfl

@[simp]
theorem boundaries_empty : empty.boundaries = 0 := rfl

/-- A frame is a continuation or a boundary. -/
theorem continuations_add_boundaries (s : Stack) : s.continuations + s.boundaries = s.depth := by
  have hlength := List.length_eq_countP_add_countP Frame.isBoundary (l := s.frames)
  rw [s.depth_eq, hlength, Nat.add_comm]
  simp only [boundaries, continuations, Bool.not_eq_true, Bool.decide_eq_false]

/-- **A failure that is caught** takes the exposed continuations and one boundary off the stack. -/
theorem count_of_unwind {dropped : Nat} (hs : s.unwind = ⟨dropped, some (g, rest)⟩) :
    dropped = s.exposed ∧ s.continuations = rest.continuations + dropped ∧
      s.boundaries = rest.boundaries + 1 := by
  obtain ⟨fs, hframes, hfs, rfl⟩ := exists_of_unwind hs
  have hall : ∀ k ∈ fs, (!k.isBoundary) = true := fun k hk => by rw [hfs k hk]; rfl
  have hnone : fs.countP Frame.isBoundary = 0 :=
    List.countP_eq_zero.mpr fun k hk => Bool.eq_false_iff.mp (hfs k hk)
  refine ⟨?_, ?_, ?_⟩
  · rw [exposed, hframes, List.takeWhile_append_of_pos hall, List.takeWhile_cons_of_neg
      (Bool.eq_false_iff.mp rfl), List.append_nil]
  · rw [continuations, hframes, List.countP_append, List.countP_eq_length.mpr hall,
      List.countP_cons_of_neg (Bool.eq_false_iff.mp rfl), Nat.add_comm]
    rfl
  · rw [boundaries, hframes, List.countP_append, hnone, List.countP_cons_of_pos rfl, Nat.zero_add]
    rfl

end Stack

/-! ### What a step does to its node -/

variable {h : Host} {settings : Settings} {a b : State × World} {past : List (State × World)}
  {s s' : State} {w w' : World}

/-- What goes wrong in the step of a state. -/
def lapseAt? (h : Host) (settings : Settings) (a : State × World) : Option Lapse :=
  lapse? h a.1.counted (settings.seen a.1 a.2)

/-- How many frames the lapse of a step exposes to be dropped for it; none if there is no lapse. -/
def lost (h : Host) (settings : Settings) (a : State × World) : Nat :=
  match lapseAt? h settings a with
  | some l => l.state.stack.exposed
  | none => 0

/-- What a step does to the node that it finds. -/
inductive Visit where
  /-- The continuation of a sequence is put on the stack. -/
  | sequence
  /-- The boundary of a guarded node is put on the stack. -/
  | region
  /-- A value is handed to the topmost continuation. -/
  | handed
  /-- A value passes the topmost boundary. -/
  | passed
  /-- An action gives a value. -/
  | acted
  /-- An action raises a fault. -/
  | raised
  /-- There is nothing to do any more. -/
  | over
  deriving DecidableEq, Repr

/-- **What the step of a state does to its node.** -/
def visit (h : Host) (settings : Settings) (a : State × World) : Visit :=
  match a.1.current with
  | .node _ (.flatMap _ _) => .sequence
  | .node _ (.recover _ _) => .region
  | .node _ (.delay _ _) => if (lapseAt? h settings a).isSome then .raised else .acted
  | .node _ (.done _) =>
    match a.1.stack.pop? with
    | some (.continuation _, _) => .handed
    | some (.boundary _, _) => .passed
    | none => .over
  | _ => .over

/-- How many steps of a history were visits of a kind. -/
def visits (h : Host) (settings : Settings) (k : Visit) (past : List (State × World)) : Nat :=
  past.countP fun a => visit h settings a = k

/-- How many steps of a history had a lapse. -/
def lapses (h : Host) (settings : Settings) (past : List (State × World)) : Nat :=
  past.countP fun a => (lapseAt? h settings a).isSome

/-- How many frames the lapses of a history have exposed. -/
def losses (h : Host) (settings : Settings) (past : List (State × World)) : Nat :=
  past.foldr (fun a n => n + lost h settings a) 0

section counting

variable {i : Nat} {v f g source thunk label : Value} {rest : Stack}

@[simp]
theorem visits_cons (k : Visit) : visits h settings k (a :: past) =
    visits h settings k past + if visit h settings a = k then 1 else 0 := by
  simp only [visits, List.countP_cons, decide_eq_true_eq]

@[simp]
theorem lapses_cons : lapses h settings (a :: past) =
    lapses h settings past + if (lapseAt? h settings a).isSome then 1 else 0 := List.countP_cons

@[simp]
theorem losses_cons : losses h settings (a :: past) =
    losses h settings past + lost h settings a := rfl

theorem lost_of_none (hl : lapseAt? h settings a = none) : lost h settings a = 0 := by
  simp only [lost, hl]

theorem lost_of_some {l : Lapse} (hl : lapseAt? h settings a = some l) :
    lost h settings a = l.state.stack.exposed := by
  simp only [lost, hl]

theorem visit_of_flatMap (hc : a.1.current = .node i (.flatMap source f)) :
    visit h settings a = .sequence := by
  simp only [visit, hc]

theorem visit_of_recover (hc : a.1.current = .node i (.recover source g)) :
    visit h settings a = .region := by
  simp only [visit, hc]

theorem visit_of_continuation (hc : a.1.current = .node i (.done v))
    (hs : a.1.stack = rest.push (.continuation f)) : visit h settings a = .handed := by
  simp only [visit, hc, hs, Stack.pop?_push]

theorem visit_of_boundary (hc : a.1.current = .node i (.done v))
    (hs : a.1.stack = rest.push (.boundary g)) : visit h settings a = .passed := by
  simp only [visit, hc, hs, Stack.pop?_push]

theorem visit_of_acted (hc : a.1.current = .node i (.delay thunk label))
    (hl : lapseAt? h settings a = none) : visit h settings a = .acted := by
  simp only [visit, hc, hl, Option.isSome_none, Bool.false_eq_true, if_false]

theorem visit_of_raised {l : Lapse} (hc : a.1.current = .node i (.delay thunk label))
    (hl : lapseAt? h settings a = some l) : visit h settings a = .raised := by
  simp only [visit, hc, hl, Option.isSome_some, if_true]

theorem visit_of_finished (hc : a.1.current = .node i (.done v)) (hs : a.1.stack = .empty) :
    visit h settings a = .over := by
  simp only [visit, hc, hs, Stack.pop?_empty]

/-- What is no node of a known variant is not visited. -/
theorem visit_of_unknown (hk : a.1.current.isKnown = false) : visit h settings a = .over := by
  unfold visit
  split <;> first | rfl | (next hc => rw [hc] at hk; cases hk)

/-- An action that raises is a lapse. -/
theorem visits_raised_le (past : List (State × World)) :
    visits h settings .raised past ≤ lapses h settings past := by
  refine List.countP_mono_left fun a _ hv => ?_
  have hraised : visit h settings a = .raised := of_decide_eq_true hv
  unfold visit at hraised
  split at hraised
  · cases hraised
  · cases hraised
  · split at hraised
    · assumption
    · cases hraised
  · split at hraised <;> cases hraised
  · cases hraised

/-- Where nothing lapses, nothing is lost. -/
theorem losses_of_lapses (hl : lapses h settings past = 0) : losses h settings past = 0 := by
  induction past with
  | nil => rfl
  | cons a past ih =>
    have hnone : lapseAt? h settings a = none :=
      Option.not_isSome_iff_eq_none.mp (List.countP_eq_zero.mp hl a List.mem_cons_self)
    rw [lapses_cons] at hl
    rw [losses_cons, ih (Nat.eq_zero_of_add_eq_zero_right hl), lost_of_none hnone]

end counting

/-! ### The ledger -/

/-- **The ledger of a state after a history.** -/
structure Balanced (h : Host) (settings : Settings) (past : List (State × World)) (s : State) :
    Prop where
  /-- A continuation was invoked, was dropped, or still waits. -/
  sequences : visits h settings .sequence past = s.counters.totalContinuations +
    s.counters.discardedContinuations + s.stack.continuations
  /-- A boundary was passed, has caught a failure, or still stands. -/
  regions : visits h settings .region past = visits h settings .passed past +
    s.counters.totalRecoveries + s.stack.boundaries
  steps : past.length = visits h settings .sequence past + visits h settings .region past +
    s.counters.totalContinuations + visits h settings .passed past + s.counters.totalEffects +
    visits h settings .raised past
  counted : s.counters.totalSteps = past.length
  /-- Each failure was caught. -/
  recoveries : s.counters.totalRecoveries = lapses h settings past
  discarded : s.counters.discardedContinuations = losses h settings past

/-- A run starts with an empty ledger. -/
theorem Balanced.start (node : Value) : Balanced h settings [] (.start node) :=
  ⟨rfl, rfl, rfl, rfl, rfl, rfl⟩

/-- A frame that is put on the stack is in the ledger. -/
theorem Balanced.enter (hb : Balanced h settings past a.1) (hl : lapseAt? h settings a = none)
    {k : Frame Value} (source : Value)
    (hv : visit h settings a = if k.isBoundary then .region else .sequence) :
    Balanced h settings (a :: past) (a.1.counted.enter k source) := by
  obtain ⟨hseq, hreg, hsteps, hcounted, hrec, hdis⟩ := hb
  cases k with
  | continuation f =>
    have hv : visit h settings a = .sequence := hv
    constructor <;> simp [State.enter, State.counted, lost_of_none hl, hl, hv] <;> omega
  | boundary g =>
    have hv : visit h settings a = .region := hv
    constructor <;> simp [State.enter, State.counted, lost_of_none hl, hl, hv] <;> omega

/-- A boundary that a value passes is in the ledger. -/
theorem Balanced.pass (hb : Balanced h settings past a.1) (hl : lapseAt? h settings a = none)
    (hv : visit h settings a = .passed) {g : Value} {rest : Stack}
    (hs : a.1.stack = rest.push (.boundary g)) :
    Balanced h settings (a :: past) { a.1.counted with stack := rest } := by
  obtain ⟨hseq, hreg, hsteps, hcounted, hrec, hdis⟩ := hb
  rw [hs] at hseq hreg
  simp only [Stack.continuations_push_boundary, Stack.boundaries_push_boundary] at hseq hreg
  constructor <;> simp [State.counted, lost_of_none hl, hl, hv] <;> omega

/-- A continuation that is invoked is in the ledger. -/
theorem Balanced.hand (hb : Balanced h settings past a.1) (hl : lapseAt? h settings a = none)
    (hv : visit h settings a = .handed) {f : Value} {rest : Stack}
    (hs : a.1.stack = rest.push (.continuation f)) (node : Value) :
    Balanced h settings (a :: past) { a.1.counted.handed rest with current := node } := by
  obtain ⟨hseq, hreg, hsteps, hcounted, hrec, hdis⟩ := hb
  rw [hs] at hseq hreg
  simp only [Stack.continuations_push_continuation, Stack.boundaries_push_continuation] at hseq hreg
  constructor <;> simp [State.handed, State.counted, lost_of_none hl, hl, hv] <;> omega

/-- An action that gives a value is in the ledger. -/
theorem Balanced.act (hb : Balanced h settings past a.1) (hl : lapseAt? h settings a = none)
    (hv : visit h settings a = .acted) (node : Value) :
    Balanced h settings (a :: past) { a.1.counted with
      current := node
      counters := { a.1.counted.counters with
        totalEffects := a.1.counted.counters.totalEffects + 1 } } := by
  obtain ⟨hseq, hreg, hsteps, hcounted, hrec, hdis⟩ := hb
  constructor <;> simp [State.counted, lost_of_none hl, hl, hv] <;> omega

/-- An action that fails below a boundary is in the ledger. -/
theorem Balanced.actCaught (hb : Balanced h settings past a.1) {l : Lapse}
    (hl : lapseAt? h settings a = some l) (hstack : l.state.stack = a.1.stack)
    (hv : visit h settings a = .raised) {dropped : Nat} {g : Value} {rest : Stack}
    (hlands : a.1.stack.unwind = ⟨dropped, some (g, rest)⟩) (fault : Fault Value) :
    Balanced h settings (a :: past) (a.1.counted.recovered fault dropped g rest) := by
  obtain ⟨hseq, hreg, hsteps, hcounted, hrec, hdis⟩ := hb
  obtain ⟨hdropped, hcont, hbound⟩ := Stack.count_of_unwind hlands
  have hlost := lost_of_some hl
  rw [hstack, ← hdropped] at hlost
  constructor <;> simp [State.recovered, State.counted, hlost, hl, hv] <;> omega

/-- A continuation that fails below a boundary is in the ledger. -/
theorem Balanced.handCaught (hb : Balanced h settings past a.1) {l : Lapse} {f : Value}
    {below : Stack} (hl : lapseAt? h settings a = some l) (hstack : l.state.stack = below)
    (hv : visit h settings a = .handed) (hs : a.1.stack = below.push (.continuation f))
    {dropped : Nat} {g : Value} {rest : Stack}
    (hlands : below.unwind = ⟨dropped, some (g, rest)⟩) (fault : Fault Value) :
    Balanced h settings (a :: past) ((a.1.counted.handed below).recovered fault dropped g rest) := by
  obtain ⟨hseq, hreg, hsteps, hcounted, hrec, hdis⟩ := hb
  rw [hs] at hseq hreg
  simp only [Stack.continuations_push_continuation, Stack.boundaries_push_continuation] at hseq hreg
  obtain ⟨hdropped, hcont, hbound⟩ := Stack.count_of_unwind hlands
  have hlost := lost_of_some hl
  rw [hstack, ← hdropped] at hlost
  constructor <;> simp [State.recovered, State.handed, State.counted, hlost, hl, hv] <;> omega

/-- **A move keeps the ledger balanced.** -/
theorem Balanced.move (hb : Balanced h settings past a.1)
    (hm : Move h a.1.counted (settings.seen a.1 a.2) s' w') :
    Balanced h settings (a :: past) s' := by
  cases hm with
  | push hc => exact hb.enter (lapse?_of_flatMap hc) _ (visit_of_flatMap hc)
  | guard hc => exact hb.enter (lapse?_of_recover hc) _ (visit_of_recover hc)
  | pass hc hs => exact hb.pass (lapse?_of_boundary hs hc) (visit_of_boundary hc hs) hs
  | hand hc hs hf =>
    have hl : lapseAt? h settings a = none :=
      (lapse?_of_done hc hs).trans (congrArg (lapseOf? _) hf)
    exact hb.hand hl (visit_of_continuation hc hs) hs _
  | act hc hrun =>
    have hl : lapseAt? h settings a = none :=
      (lapse?_of_delay hc).trans (congrArg (lapseOf? _) hrun)
    exact hb.act hl (visit_of_acted hc hl) _
  | handCaught hc hs hf _ hlands =>
    have hl := (lapse?_of_done hc hs).trans (congrArg (lapseOf? _) hf)
    exact hb.handCaught hl rfl (visit_of_continuation hc hs) hs hlands _
  | actCaught hc hrun _ hlands =>
    have hl := (lapse?_of_delay hc).trans (congrArg (lapseOf? _) hrun)
    exact hb.actCaught hl rfl (visit_of_raised hc hl) hlands _

variable {start : State × World} {node : Value}

/-- **The ledger is balanced in every state of every run.** -/
theorem History.balanced (hb : History h settings (.start node, w) past b) :
    Balanced h settings past b.1 := by
  induction hb with
  | start => exact .start node
  | next _ hab ih => exact ih.move hab.move_seen

/-- **The greatest depth that is counted is that of a state of the history,** and no state is deeper. -/
theorem History.isGreatest_depth (hb : History h settings (.start node, w) past b) :
    IsGreatest {d | ∃ a ∈ b :: past, a.1.stack.depth = d} b.1.counters.maxStackDepth := by
  induction hb with
  | start =>
    refine ⟨⟨_, List.mem_singleton_self _, rfl⟩, ?_⟩
    rintro d ⟨a, ha, rfl⟩
    rw [List.mem_singleton.mp ha]
    exact Nat.le_refl _
  | @next past a b _ hab ih =>
    obtain ⟨⟨c, hc, hdepth⟩, hupper⟩ := ih
    have hle : ∀ d ∈ a :: past, d.1.stack.depth ≤ a.1.counters.maxStackDepth :=
      fun d hd => hupper ⟨d, hd, rfl⟩
    rcases hab.move_seen.deepens with ⟨hlower, hmax⟩ | ⟨k, source, hpush, -⟩
    · have hsame : b.1.counters.maxStackDepth = a.1.counters.maxStackDepth := hmax
      rw [hsame]
      refine ⟨⟨c, List.mem_cons_of_mem _ hc, hdepth⟩, ?_⟩
      rintro d ⟨e, he, rfl⟩
      rcases List.mem_cons.mp he with rfl | he
      · exact Nat.le_trans hlower (hle a List.mem_cons_self)
      · exact hle e he
    · have hmax : b.1.counters.maxStackDepth =
          max a.1.counters.maxStackDepth b.1.stack.depth := by rw [hpush]; rfl
      rw [hmax]
      constructor
      · rcases Nat.le_total a.1.counters.maxStackDepth b.1.stack.depth with hdeep | hdeep
        · rw [Nat.max_eq_right hdeep]
          exact ⟨b, List.mem_cons_self, rfl⟩
        · rw [Nat.max_eq_left hdeep]
          exact ⟨c, List.mem_cons_of_mem _ hc, hdepth⟩
      · rintro d ⟨e, he, rfl⟩
        rcases List.mem_cons.mp he with rfl | he
        · exact Nat.le_max_right _ _
        · exact Nat.le_trans (hle e he) (Nat.le_max_left _ _)

/-- Whatever its kind, a frame that was put on the stack has left it or is still there. -/
theorem Balanced.frames (hb : Balanced h settings past s) :
    visits h settings .sequence past + visits h settings .region past =
      s.counters.totalContinuations + visits h settings .passed past + s.counters.totalRecoveries +
        s.counters.discardedContinuations + s.stack.depth := by
  obtain ⟨hseq, hreg, -, -, -, -⟩ := hb
  have hsum := s.stack.continuations_add_boundaries
  omega

/-! ### Bounds on the counters -/

/-- Nothing is counted more often than a bound says. -/
structure Counters.Within (c : Counters) (bound : Nat) : Prop where
  steps : c.totalSteps ≤ bound
  effects : c.totalEffects ≤ bound
  continuations : c.totalContinuations ≤ bound
  recoveries : c.totalRecoveries ≤ bound
  depth : c.maxStackDepth ≤ bound
  discarded : c.discardedContinuations ≤ bound

/-- Every frame that is on the stack has taken a step. -/
theorem Balanced.depth_le (hb : Balanced h settings past s) :
    s.stack.depth ≤ s.counters.totalSteps := by
  have hframes := hb.frames
  obtain ⟨-, -, hsteps, hcounted, -, -⟩ := hb
  omega

/-- The greatest depth is reached by taking steps. -/
theorem History.maxStackDepth_le (hb : History h settings (.start node, w) past b) :
    b.1.counters.maxStackDepth ≤ b.1.counters.totalSteps := by
  induction hb with
  | start => exact Nat.le_refl _
  | @next past a b ha hab ih =>
    have hsteps : b.1.counters.totalSteps = a.1.counters.totalSteps + 1 := hab.totalSteps_eq
    have hdepth : b.1.stack.depth ≤ b.1.counters.totalSteps := (ha.next hab).balanced.depth_le
    rcases hab.move_seen.deepens with ⟨-, hmax⟩ | ⟨k, source, hpush, -⟩
    · have hsame : b.1.counters.maxStackDepth = a.1.counters.maxStackDepth := hmax
      omega
    · have hmax : b.1.counters.maxStackDepth =
          max a.1.counters.maxStackDepth b.1.stack.depth := by rw [hpush]; rfl
      omega

/-- **The ledger of a run that has ended,** with nothing left on the stack. -/
structure Settled (h : Host) (settings : Settings) (past : List (State × World)) (e : Ending)
    (s : State) : Prop where
  stack : s.stack = .empty
  /-- Each frame was invoked or passed, has caught a failure, or was dropped. -/
  frames : visits h settings .sequence past + visits h settings .region past =
    s.counters.totalContinuations + visits h settings .passed past + s.counters.totalRecoveries +
      s.counters.discardedContinuations
  /-- Without a guarded node, a run that gives a value drops nothing, and takes two steps for each
  continuation, one for each action, and one for the value. -/
  unguarded : ∀ v, e = .finished v → visits h settings .region past = 0 →
    s.counters.discardedContinuations = 0 ∧
      s.counters.totalSteps = 2 * s.counters.totalContinuations + s.counters.totalEffects + 1

/-- A run that gives a value settles the ledger. -/
theorem Balanced.settled_finished (hb : Balanced h settings past a.1) {i : Nat} {v : Value}
    (hc : a.1.current = .node i (.done v)) (hs : a.1.stack = .empty) :
    Settled h settings (a :: past) (.finished v) a.1.counted := by
  have hv : visit h settings a = .over := visit_of_finished hc hs
  obtain ⟨hseq, hreg, hsteps, hcounted, hrec, hdis⟩ := hb
  rw [hs] at hseq hreg
  simp only [Stack.continuations_empty, Stack.boundaries_empty] at hseq hreg
  refine ⟨hs, ?_, fun v _ hnone => ?_⟩
  · simp only [visits_cons, hv, reduceCtorEq, if_false, State.counted]
    omega
  · -- no boundary was there to catch a failure, so nothing has failed before the value
    simp only [visits_cons, hv, reduceCtorEq, if_false] at hnone
    have hlapses : lapses h settings past = 0 := by omega
    have hraised : visits h settings .raised past ≤ lapses h settings past := visits_raised_le past
    have hlost := losses_of_lapses hlapses
    simp only [State.counted]
    omega

/-- A run that fails settles the ledger. -/
theorem Balanced.settled_failed (hb : Balanced h settings past a.1) {l : Lapse}
    (hl : lapseAt? h settings a = some l) (f : Failure) :
    Settled h settings (a :: past) (.failed f) (l.state.uncaught l.state.stack.depth) := by
  have hbefore := hb.frames
  rcases exists_of_lapse? hl with ⟨i, thunk, label, hc, -, hstate⟩ | ⟨i, v, g, rest, hc, hs, -, hstate⟩
  · have hv := visit_of_raised hc hl
    rw [hstate]
    refine ⟨rfl, ?_, nofun⟩
    simp only [State.uncaught, State.counted, visits_cons, hv, reduceCtorEq, if_false]
    omega
  · have hv : visit h settings a = .handed := visit_of_continuation hc hs
    have hstack : a.1.stack = rest.push (.continuation g) := hs
    have hdepth : a.1.stack.depth = rest.depth + 1 := by rw [hstack]; rfl
    rw [hstate]
    refine ⟨rfl, ?_, nofun⟩
    simp only [State.uncaught, State.handed, State.counted, visits_cons, hv, reduceCtorEq, if_false]
    omega

/-- **Every end of a run but an interrupt settles the ledger.** -/
theorem Balanced.settled {e : Ending} (hb : Balanced h settings past a.1)
    (he : ∀ fault, e ≠ .interrupted fault)
    (hhalt : Halt h settings a.1.counted (settings.seen a.1 a.2) e s w) :
    Settled h settings (a :: past) e s := by
  cases hhalt with
  | finished hc hs => exact hb.settled_finished hc hs
  | failed hl => exact hb.settled_failed hl _
  | unknown hk =>
    have hbefore := hb.frames
    refine ⟨rfl, ?_, fun v hv => by cases hv⟩
    simp only [State.cleared, State.counted, visits_cons, visit_of_unknown hk, reduceCtorEq, if_false]
    omega
  | overflow hm =>
    have hafter := (hb.move hm).frames
    refine ⟨rfl, ?_, fun v hv => by cases hv⟩
    simp only [State.cleared]
    omega
  | interrupted => exact absurd rfl (he _)

theorem Outcome.ending_ne_interrupted (o : Outcome) (fault : Fault Value) :
    o.ending ≠ .interrupted fault := by
  cases o <;> nofun

end Machine

/-- **No frame is lost or counted twice.**  In every state of every run, whatever the host, the node,
the world, the limit and the tracing, the counters agree with the ledger of the steps before it, and
the greatest depth that they tell is that of the deepest state so far.  Where a run ends, but for an
interrupt, nothing is left on the stack and each frame is accounted for, also if the run failed, came
to an unknown variant, or exceeded its limit.  Every report is of such an end. -/
theorem frames_accounted (h : Host) (settings : Settings) (node : Value) :
    (∀ w past b, History h settings (.start node, w) past b →
      Balanced h settings past b.1 ∧
        IsGreatest {d | ∃ a ∈ b :: past, a.1.stack.depth = d} b.1.counters.maxStackDepth) ∧
    (∀ w past last e s w', History h settings (.start node, w) past last →
      step h settings last.1 last.2 = .ok (.halted e s) w' → (∀ fault, e ≠ .interrupted fault) →
      Settled h settings (last :: past) e s) ∧
    ∀ w fuel r w', runReport h fuel settings node w = .ok r w' →
      ∃ description past last s w₁, w.ticked.describe? node = .ok description ∧
        History h settings (.start node, w.opened description) past last ∧
        step h settings last.1 last.2 = .ok (.halted r.outcome.ending s) w₁ ∧
        s.counters = r.counters ∧ Settled h settings (last :: past) r.outcome.ending s := by
  refine ⟨fun w past b hb => ⟨hb.balanced, hb.isGreatest_depth⟩,
    fun w past last e s w' hlast hstep he => hlast.balanced.settled he (halt_of_step hstep),
    fun w fuel r w' hrun => ?_⟩
  obtain ⟨description, past, last, s, w₁, hd, hlast, hstep, hhalt, hcounters, -⟩ :=
    exists_history_of_runReport hrun
  exact ⟨description, past, last, s, w₁, hd, hlast, hstep, hcounters,
    hlast.balanced.settled r.outcome.ending_ne_interrupted hhalt⟩

/-- A finished node and a continuation that wraps its value take three steps. -/
theorem frames_accounted_sequenced :
    let w := Script.SessionInput.recorded
    let settings := Script.settingsOf w .none (.bool false)
    let node := Value.sequenced .unit .wrapOk
    ∃ past last s r w',
      History .spent settings (.start node, w) past last ∧
      Balanced .spent settings past last.1 ∧
      Settled .spent settings (last :: past) (.finished (.success .none)) s ∧
      s.counters.discardedContinuations = 0 ∧
      s.counters.totalSteps = 2 * s.counters.totalContinuations + s.counters.totalEffects + 1 ∧
      runReport .spent 3 settings node w = .ok r w' ∧
      ∃ past last s, Settled .spent settings (last :: past) r.outcome.ending s := by
  intro w settings node
  have hp : settings.Plain := Settings.plain_settingsOf w
  obtain ⟨hstates, hends, hreports⟩ := frames_accounted .spent settings node
  have hpushed := next_sequence (h := .spent) hp 0 .unit (.ofCallback .wrapOk) .empty .zero w
  have hwrapped : applied .spent (.ofCallback .wrapOk) .none w =
      .ok (.ok (.done (.success .none))) w := rfl
  have hlast := (History.start.next hpushed).next (next_continuation hp hwrapped 1 .empty _)
  have hsettled := hends w _ _ _ _ _ hlast (step_finished hp 0 (.success .none) _ w) nofun
  obtain ⟨hdiscarded, hsteps⟩ := hsettled.unguarded _ rfl rfl
  have hrun : ∃ r w', runReport .spent 3 settings node w = .ok r w' := ⟨_, _, rfl⟩
  obtain ⟨r, w', hrun⟩ := hrun
  obtain ⟨_, past, last, s, _, -, -, -, -, hreported⟩ := hreports w 3 r w' hrun
  exact ⟨_, _, _, r, w', hlast, (hstates w _ _ hlast).1, hsettled, hdiscarded, hsteps, hrun, past, last,
    s, hreported⟩

end EffectGraph
