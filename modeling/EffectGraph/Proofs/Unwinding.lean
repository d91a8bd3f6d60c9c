import EffectGraph.Proofs.Blame
import EffectGraph.Proofs.Kinship
import EffectGraph.Proofs.Rendering
import EffectGraph.Script.Methods

/-!
# Unwinding

A fault takes frames off the stack of a state from the top, down to the topmost boundary and with
it, or all of them if there is no boundary.  It happens in two places: a run keeps its state to itself
(`handleFault`), and a script can make the state of a run and let a fault unwind it (`unwindState`).
Either way nothing on the stack is called, what lies below the boundary stays, and the counters tell
how many frames were dropped and whether the fault was caught (`fault_unwinds`).

What is told of it can be refused: the recovery is a message in the journal that needs the text of
the label, and the report of a failure is worded with the text of the fault.
-/

namespace EffectGraph

/-- Something on a stack is the topmost of its kind, or nothing is. -/
theorem topmost_cases {α : Type} (p : α → Bool) (items : List α) :
    (∃ above v below, p v = true ∧ (∀ u ∈ above, p u = false) ∧ items = above ++ v :: below) ∨
      ∀ v ∈ items, p v = false := by
  cases hfind : items.find? p with
  | none => exact .inr fun v hv => Bool.eq_false_iff.2 (List.find?_eq_none.1 hfind v hv)
  | some v =>
    obtain ⟨hv, above, below, rfl, habove⟩ := List.find?_eq_some_iff_append.1 hfind
    exact .inl ⟨above, v, below, hv, fun u hu => by simpa using habove u hu, rfl⟩

/-! ### What is told of it -/

namespace Machine

variable {w : World} {fault : Fault Value} {label : Value}

/-- A recovery is noted, unless the journal records and the label has no text. -/
theorem recoveryNote_cases (fault : Fault Value) (label : Value) (dropped : Nat) (w : World) :
    (∃ text, recoveryNote fault label dropped w = .ok () (w.noted text)) ∨
      ∃ c, w.journal.recording = true ∧ w.str? label = .error c ∧
        recoveryNote fault label dropped w = .error (.raised c.fault) w := by
  cases hl : w.str? label with
  | ok text => exact .inl ⟨_, recoveryNote_apply hl fault dropped⟩
  | error c =>
    rw [recoveryNote_of_error hl fault dropped]
    cases hr : w.journal.recording with
    | true => exact .inr ⟨c, rfl, rfl, if_pos rfl⟩
    | false =>
      refine .inl ⟨"", ?_⟩
      rw [World.noted, Journal.noted, hr]
      rfl

/-! ### Unwinding the state of a run -/

/-- **What a boundary makes of a state when it takes a fault over:** what was below it is the stack,
its handler is to be fed the fault, and nothing but one recovery and the continuations above the
boundary is counted.  There is room for another frame without the stack being deeper than before. -/
structure State.CaughtAs (s s' : State) (fault : Fault Value) (dropped : Nat) (handler : Value)
    (below : List (Frame Value)) : Prop where
  frames : s'.stack.frames = below
  current : s'.current = .ofNode (.flatMap (.done (.fault fault)) handler)
  counters : s'.counters = { s.counters with
    totalRecoveries := s.counters.totalRecoveries + 1
    discardedContinuations := s.counters.discardedContinuations + dropped }
  room : ∀ frame source, (s'.enter frame source).stack.depth ≤ s.stack.depth
  /-- The handler is invoked on the fault, and the node that it gives is next. -/
  feeds : ∀ {h : Host} {settings : Settings} {u u' : World} {node : Value}, settings.Plain →
    applied h handler (.fault fault) u = .ok (.ok node) u' →
    ∃ t, Reaches h settings (s', u) (t, u') ∧ t.current = node ∧ t.stack.frames = below

/-- **What is left of a state when no boundary takes a fault over.** -/
structure State.ClearedAs (s s' : State) : Prop where
  frames : s'.stack.frames = []
  current : s'.current = s.current
  counters : s'.counters = { s.counters with
    discardedContinuations := s.counters.discardedContinuations + s.stack.frames.length }

/-- What a report tells of a fault that took all the frames of a state away. -/
structure Failure.TellsOf (failure : Failure) (s : State) (fault : Fault Value) (label : Value) :
    Prop where
  cause : failure.cause = fault
  label : failure.label = label
  step : failure.step = s.counters.totalSteps
  discarded : failure.discarded = s.stack.frames.length

theorem caughtAs_recovered {s : State} {above below : List (Frame Value)} {handler : Value}
    (hframes : s.stack.frames = above ++ .boundary handler :: below) (fault : Fault Value) :
    s.CaughtAs (s.recovered fault above.length handler ⟨below, below.length, rfl⟩) fault above.length
      handler below := by
  refine ⟨rfl, rfl, rfl, fun frame source => ?_, fun {h settings u u' node} hp hnode => ?_⟩
  · have hdepth : s.stack.depth = above.length + (below.length + 1) := by
      rw [s.stack.depth_eq, hframes, List.length_append, List.length_cons]
    rw [hdepth]
    exact Nat.le_add_left _ _
  · have hfed := (Relation.ReflTransGen.single (next_sequence hp 0 (.done (.fault fault)) handler
      ⟨below, below.length, rfl⟩ (s.counters.caught above.length) u)).tail
      (next_continuation hp hnode 0 _ _)
    exact ⟨_, hfed, rfl, rfl⟩

/-- A failure above a boundary is caught there, unless the note of it is refused. -/
theorem handleFault_of_boundary {s : State} {above below : List (Frame Value)} {handler : Value}
    (hfault : fault.kind.isFailure = true) (habove : ∀ f ∈ above, f.isBoundary = false)
    (hframes : s.stack.frames = above ++ .boundary handler :: below) (label : Value) (w : World) :
    (∃ s' text, handleFault s fault label w = .ok (.next s') (w.noted text) ∧
      s.CaughtAs s' fault above.length handler below) ∨
    ∃ c, w.journal.recording = true ∧ w.str? label = .error c ∧
      handleFault s fault label w = .ok (.halted (.interrupted c.fault) s) w := by
  have hlands : s.stack.unwind = ⟨above.length, some (handler, ⟨below, below.length, rfl⟩)⟩ :=
    Stack.unwind_of_boundary hframes habove
  rcases recoveryNote_cases fault label above.length w with ⟨text, hnote⟩ | ⟨c, hr, hl, hnote⟩
  · exact .inl ⟨_, text, mishap_of_noted (m := (fault, label)) hfault hlands hnote,
      caughtAs_recovered hframes fault⟩
  · have hmishap := congrFun (mishap_of_landing (m := (fault, label)) hfault hlands) w
    rw [Eff.bind_of_ok (Eff.attempt_of_raised hnote)] at hmishap
    exact .inr ⟨c, hr, hl, hmishap⟩

/-- A failure without a boundary ends the run with a report, unless the wording is refused. -/
theorem handleFault_of_continuations {s : State} (hfault : fault.kind.isFailure = true)
    (hframes : ∀ f ∈ s.stack.frames, f.isBoundary = false) (label : Value) (w : World) :
    ∃ s', s.ClearedAs s' ∧
      ((∃ failure, handleFault s fault label w = .ok (.halted (.failed failure) s') w ∧
        failure.TellsOf s fault label) ∨
      ∃ c, words w fault label = .error c ∧
        handleFault s fault label w = .ok (.halted (.interrupted c.fault) s') w) := by
  have hlands : s.stack.unwind = ⟨s.stack.frames.length, none⟩ :=
    Stack.unwind_of_continuations hframes
  have hmishap := mishap_of_no_landing (m := (fault, label)) hfault hlands w
  refine ⟨s.uncaught s.stack.frames.length, ⟨rfl, rfl, rfl⟩, ?_⟩
  cases hworded : worded w fault label s.counters.totalSteps s.stack.frames.length with
  | ok failure =>
    obtain ⟨⟨hcause, hlabel, hdiscarded⟩, -⟩ := worded_eq_ok hworded 0 0
    rw [hworded] at hmishap
    exact .inl ⟨failure, hmishap, hcause, hlabel, step_of_worded hworded, hdiscarded⟩
  | error c =>
    rw [hworded] at hmishap
    refine .inr ⟨c, ?_, hmishap⟩
    unfold worded at hworded
    cases hwords : words w fault label with
    | ok texts =>
      rw [hwords] at hworded
      cases hworded
    | error c' =>
      rw [hwords] at hworded
      cases hworded
      rfl

end Machine

/-! ### Unwinding a state that scripts hold -/

/-- Is this value the boundary of a guarded region? -/
def Value.isBoundary : Value → Bool
  | .frame _ (.boundary _) => true
  | _ => false

theorem Value.eq_frame_of_isBoundary {v : Value} (hv : v.isBoundary = true) :
    ∃ i handler, v = .frame i (.boundary handler) := by
  unfold isBoundary at hv
  split at hv
  · exact ⟨_, _, rfl⟩
  · cases hv

/-- The world with other items, the topmost first, on a list that is a stack. -/
def World.restacked (w : World) (stack : Nat) (items : List Value) : World :=
  { w with lists := w.lists.setIfInBounds stack items.reverse.toArray }

/-- The world with other counters of a run. -/
def World.recounted (w : World) (stats : Nat) (counters : Stats Value) : World :=
  { w with stats := w.stats.setIfInBounds stats counters }

theorem World.restacked_restacked (w : World) (stack : Nat) (items items' : List Value) :
    (w.restacked stack items).restacked stack items' = w.restacked stack items' := by
  simp only [restacked, Array.setIfInBounds_setIfInBounds]

theorem World.recounted_recounted (w : World) (stats : Nat) (counters counters' : Stats Value) :
    (w.recounted stats counters).recounted stats counters' = w.recounted stats counters' := by
  simp only [recounted, Array.setIfInBounds_setIfInBounds]

namespace Script

variable {h : Host} {w : World} {state stack stats : Nat} {items above below : List Value}

/-- A list that is a stack: its items from the topmost on, all of them seen by scripts. -/
structure IsStack (w : World) (stack : Nat) (items : List Value) : Prop where
  items : w.lists[stack]? = some items.reverse.toArray
  seen : w.unsettled.contains stack = false

theorem IsStack.listItems (hs : IsStack w stack items) :
    w.listItems stack = items.reverse.toArray := by
  rw [World.listItems, hs.items, Option.getD_some]

theorem IsStack.restacked (hs : IsStack w stack items) (items' : List Value) :
    IsStack (w.restacked stack items') stack items' := by
  obtain ⟨hbound, -⟩ := Array.getElem?_eq_some_iff.1 hs.items
  exact ⟨Array.getElem?_setIfInBounds_self_of_lt hbound, hs.seen⟩

theorem IsStack.recounted (hs : IsStack w stack items) (stats : Nat) (counters : Stats Value) :
    IsStack (w.recounted stats counters) stack items := ⟨hs.items, hs.seen⟩

/-- A stack with its own items on it is as it was. -/
theorem IsStack.restacked_self (hs : IsStack w stack items) : w.restacked stack items = w := by
  obtain ⟨hbound, hitems⟩ := Array.getElem?_eq_some_iff.1 hs.items
  rw [World.restacked, Array.setIfInBounds, dif_pos hbound, ← hitems, Array.set_getElem_self]

theorem IsStack.isTruthy (hs : IsStack w stack items) :
    w.isTruthy (.list stack) = !items.isEmpty := by
  rw [World.isTruthy, hs.listItems]
  cases items <;> simp

/-- A frame that is put on a stack makes it deeper by one. -/
theorem IsStack.size_of_pushItem (hs : IsStack w stack items) {frame : Value} {u : World}
    (hpush : World.pushItem stack frame w = .ok () u) :
    (u.listItems stack).size = items.length + 1 := by
  cases hpush
  simp [World.listItems, Array.getElem?_modify, hs.items]

/-- A row without its last item is what it was before that was added. -/
theorem eraseIdxIfInBounds_push {α : Type} (a : Array α) (x : α) :
    (a.push x).eraseIdxIfInBounds a.size = a := by
  rw [Array.eraseIdxIfInBounds, dif_pos (by simp)]
  apply Array.ext'
  simp [Array.toList_eraseIdx, List.eraseIdx_append_of_length_le]

/-- The topmost item is the one that is taken off. -/
theorem popFrame_apply {item : Value} (hs : IsStack w stack (item :: items)) :
    popFrame h (.list stack) w = .ok item (w.restacked stack items) := by
  have hitems : (item :: items).reverse.toArray = items.reverse.toArray.push item := by
    rw [List.reverse_cons, List.push_toArray]
  have hindex : wordOf (.int (-1)) = .ok (-1) := rfl
  have hsettled : settledItems stack w = .ok (items.reverse.toArray.push item) w := by
    rw [settledItems, Eff.bind_get, Eff.bind_get, hs.seen, hs.listItems, hitems]
    rfl
  have hnonempty : (items.reverse.toArray.push item).isEmpty = false := by simp
  have hplace : (if (-1 : Int) < 0 then -1 + ((items.reverse.toArray.push item).size : Int)
      else -1) = (items.reverse.toArray.size : Int) := by
    rw [if_pos (by decide), Array.size_push]
    omega
  have hinside : ¬ (items.reverse.toArray.size : Int) < 0 := Int.not_lt.2 (Int.natCast_nonneg _)
  rw [popFrame, popItem, Eff.bind_of_ok (Eff.ofExcept_of_ok hindex), Eff.bind_of_ok hsettled]
  simp only [hnonempty, hplace, hinside, Bool.false_eq_true, if_false, Int.toNat_natCast,
    Array.getElem?_push_size, eraseIdxIfInBounds_push]
  rfl

/-- What is no boundary is taken off and counted. -/
theorem takeFrames_cons {item : Value} (hs : IsStack w stack (item :: items))
    (hitem : item.isBoundary = false) (fuel dropped : Nat) :
    takeFrames h (.list stack) (fuel + 1) dropped w =
      takeFrames h (.list stack) fuel (dropped + 1) (w.restacked stack items) := by
  have htruthy : w.isTruthy (.list stack) = true := hs.isTruthy
  rw [takeFrames, Eff.bind_get, htruthy, Bool.not_true, if_neg Bool.false_ne_true,
    Eff.bind_of_ok (popFrame_apply hs)]
  split
  · cases hitem
  · rfl

/-- A boundary is taken off, and nothing below it. -/
theorem takeFrames_boundary {i : Nat} {handler : Value}
    (hs : IsStack w stack (.frame i (.boundary handler) :: items)) (fuel dropped : Nat) :
    takeFrames h (.list stack) (fuel + 1) dropped w =
      .ok (dropped, some handler) (w.restacked stack items) := by
  have htruthy : w.isTruthy (.list stack) = true := hs.isTruthy
  rw [takeFrames, Eff.bind_get, htruthy, Bool.not_true, if_neg Bool.false_ne_true,
    Eff.bind_of_ok (popFrame_apply hs)]
  rfl

theorem takeFrames_nil (hs : IsStack w stack []) (fuel dropped : Nat) :
    takeFrames h (.list stack) (fuel + 1) dropped w = .ok (dropped, none) w := by
  have htruthy : w.isTruthy (.list stack) = false := hs.isTruthy
  rw [takeFrames, Eff.bind_get, htruthy]
  rfl

/-- **Everything down to the topmost boundary is taken off,** item by item. -/
theorem takeFrames_append {rest : List Value} (habove : ∀ v ∈ above, v.isBoundary = false)
    (hs : IsStack w stack (above ++ rest)) (fuel dropped : Nat) :
    takeFrames h (.list stack) (above.length + fuel) dropped w =
      takeFrames h (.list stack) fuel (dropped + above.length) (w.restacked stack rest) := by
  induction above generalizing w dropped with
  | nil =>
    rw [List.nil_append] at hs
    rw [List.length_nil, Nat.zero_add, Nat.add_zero, hs.restacked_self]
  | cons item above ih =>
    obtain ⟨hitem, habove⟩ := List.forall_mem_cons.1 habove
    rw [List.cons_append] at hs
    rw [List.length_cons, Nat.add_right_comm, takeFrames_cons hs hitem,
      ih habove (hs.restacked _), World.restacked_restacked, Nat.add_assoc, Nat.add_comm 1]

/-- **Where there is a boundary,** all that stands above it is taken off, and the boundary too. -/
theorem takeFrames_of_boundary {i fuel : Nat} {handler : Value}
    (habove : ∀ v ∈ above, v.isBoundary = false)
    (hs : IsStack w stack (above ++ .frame i (.boundary handler) :: below))
    (hfuel : above.length < fuel) :
    takeFrames h (.list stack) fuel 0 w =
      .ok (above.length, some handler) (w.restacked stack below) := by
  obtain ⟨left, rfl⟩ := Nat.exists_eq_add_of_lt hfuel
  rw [Nat.add_assoc, takeFrames_append habove hs, takeFrames_boundary (hs.restacked _),
    World.restacked_restacked, Nat.zero_add]

/-- **Where there is no boundary,** everything is taken off. -/
theorem takeFrames_of_no_boundary {fuel : Nat} (hitems : ∀ v ∈ items, v.isBoundary = false)
    (hs : IsStack w stack items) (hfuel : items.length < fuel) :
    takeFrames h (.list stack) fuel 0 w = .ok (items.length, none) (w.restacked stack []) := by
  obtain ⟨left, rfl⟩ := Nat.exists_eq_add_of_lt hfuel
  rw [← List.append_nil items] at hs
  rw [Nat.add_assoc, takeFrames_append hitems hs, takeFrames_nil (hs.restacked _), Nat.zero_add]

/-! ### Counting it -/

/-- The counters of a run: the object, what it holds, and nothing that scripts have added to it. -/
structure IsStats (w : World) (stats : Nat) (counters : Stats Value) : Prop where
  content : w.stats[stats]? = some counters
  own : ∀ name, w.given? (.stats stats) name = none

variable {counters : Stats Value}

theorem IsStats.statsAt (hc : IsStats w stats counters) : w.statsAt stats = counters := by
  rw [World.statsAt, hc.content, Option.getD_some]

theorem IsStats.recounted (hc : IsStats w stats counters) (counters' : Stats Value) :
    IsStats (w.recounted stats counters') stats counters' := by
  obtain ⟨hbound, -⟩ := Array.getElem?_eq_some_iff.1 hc.content
  exact ⟨Array.getElem?_setIfInBounds_self_of_lt hbound, hc.own⟩

/-- A counter is read as it stands. -/
theorem IsStats.readAttribute (hc : IsStats w stats counters) {name : String} {v : Value}
    (hname : name ≠ "__dict__") (hproperty : property? (.stats stats) name = none)
    (hfield : counters.field? name = some v) : readAttribute (.stats stats) name w = .ok v w := by
  refine Command.readAttribute_of_field hname hproperty ?_
  rw [Script.field?, hc.own, ownFields, hc.statsAt]
  exact hfield

/-- A whole number is added to a counter that is one. -/
theorem IsStats.increase (hc : IsStats w stats counters) (name : String) (amount : Int)
    {before : Int} {counters' : Stats Value} (hname : name ≠ "__dict__")
    (hproperty : property? (.stats stats) name = none)
    (hfield : counters.field? name = some (.int before))
    (hcounters' : counters.replace? name (.int (before + amount)) = some counters')
    (hwritable : (readOnly (.stats stats)).contains name = false) :
    increaseAttribute (.stats stats) name (.int amount) w =
      .ok () (w.recounted stats counters') := by
  have hsum : Arithmetic.increase (.int before) (.int amount) w = .ok (.int (before + amount)) w := rfl
  have hfrozen : isFrozen (.stats stats) = false := rfl
  rw [increaseAttribute, Eff.bind_of_ok (hc.readAttribute hname hproperty hfield),
    Eff.bind_of_ok hsum, assignAttribute, hfrozen, if_neg Bool.false_ne_true]
  simp only [hwritable, Bool.false_eq_true, if_false, assignField]
  rw [Eff.bind_get, hc.statsAt, hcounters']
  rfl

/-! ### Unwinding it -/

/-- The state of a run: the object, what it holds, and nothing that scripts have added to it. -/
structure IsRunState (w : World) (state : Nat) (content : RunState) : Prop where
  content : w.runStates[state]? = some content
  own : ∀ name, w.given? (.runState state) name = none

/-- Scripts have got hold of a value: it has its identity, and so have its parts. -/
def Seen (v : Value) : Prop := ∀ w, settle v w = .ok v w

variable {content : RunState}

theorem IsRunState.runStateAt (hr : IsRunState w state content) : w.runStateAt state = content := by
  rw [World.runStateAt, hr.content, Option.getD_some]

/-- A part of a state is read as it stands. -/
theorem IsRunState.readAttribute (hr : IsRunState w state content) {name : String} {v : Value}
    (hname : name ≠ "__dict__") (hproperty : property? (.runState state) name = none)
    (hfield : [("current", content.current), ("continuation_stack", content.stack),
      ("stats", content.stats)].lookup name = some v) :
    readAttribute (.runState state) name w = .ok v w := by
  refine Command.readAttribute_of_field hname hproperty ?_
  rw [field?, hr.own, ownFields, hr.runStateAt]
  exact hfield

theorem IsRunState.readAttribute_parts (hr : IsRunState w state content)
    (hstack : content.stack = .list stack) (hstats : content.stats = .stats stats) :
    Script.readAttribute (.runState state) "stats" w = .ok (.stats stats) w ∧
      Script.readAttribute (.runState state) "continuation_stack" w = .ok (.list stack) w :=
  ⟨hr.readAttribute (by decide) rfl (congrArg some hstats),
    hr.readAttribute (by decide) rfl (congrArg some hstack)⟩

/-- The node that a handler is fed by gets an identity. -/
theorem settle_handing {fault : Fault Value} {handler : Value} (hfault : Seen (.fault fault))
    (hhandler : Seen handler) (w : World) :
    settle (.ofNode (.flatMap (.done (.fault fault)) handler)) w =
      .ok (.node w.stamps (.flatMap (.node (w.stamps + 1) (.done (.fault fault))) handler))
        { w with stamps := w.stamps + 2 } := by
  have hstamp (u : World) : World.freshStamp u = .ok u.stamps { u with stamps := u.stamps + 1 } := rfl
  have hsource (u : World) : settle (.done (.fault fault)) u =
      .ok (.node u.stamps (.done (.fault fault))) { u with stamps := u.stamps + 1 } := by
    rw [Value.done, Value.ofNode, settle, Eff.bind_of_ok (hstamp u), settleNode, bind_assoc,
      Eff.bind_of_ok (hfault _)]
    rfl
  rw [Value.ofNode, settle, Eff.bind_of_ok (hstamp w), settleNode, bind_assoc,
    Eff.bind_of_ok (hsource _), bind_assoc, Eff.bind_of_ok (hhandler _)]
  rfl

/-- A node with an identity becomes the current one, and nothing else is changed. -/
theorem IsRunState.setCurrent (hr : IsRunState w state content) {node node' : Value} {w' : World}
    (hnode : settle node w = .ok node' w') (hw' : w'.runStates = w.runStates) :
    setCurrent (.runState state) node w = .ok ()
      { w' with runStates := w.runStates.setIfInBounds state { content with current := node' } } := by
  have hcontent : w'.runStateAt state = content := by
    rw [World.runStateAt, hw', hr.content, Option.getD_some]
  have hassign : assignAttribute (.runState state) "current" node' w' =
      World.setRunState state { w'.runStateAt state with current := node' } w' := rfl
  rw [Script.setCurrent, Eff.bind_of_ok hnode, hassign, hcontent, ← hw']
  rfl

variable {counters : Stats Value} {fault : Fault Value} {fuel : Nat}

section taking

variable (hstate : IsRunState w state content) (hstack : content.stack = .list stack)
  (hstats : content.stats = .stats stats) {dropped : Nat} {w' : World} (label : Value)
include hstate hstack hstats

/-- The parts of a state are looked up, and the frames are taken off its stack. -/
theorem unwindState_of_some {handler : Value}
    (htaken : takeFrames h (.list stack) fuel 0 w = .ok (dropped, some handler) w') :
    unwindState h fuel (.runState state) (.fault fault) label w = (do
      increaseAttribute (.stats stats) "total_recoveries" (.int 1)
      increaseAttribute (.stats stats) "discarded_continuations" (.int dropped)
      Machine.recoveryNote fault label dropped
      Script.setCurrent (.runState state) (.ofNode (.flatMap (.done (.fault fault)) handler))
      return .none : Eff Value) w' := by
  obtain ⟨hreadStats, hreadStack⟩ := hstate.readAttribute_parts hstack hstats
  rw [unwindState, Eff.bind_of_ok hreadStats, Eff.bind_of_ok hreadStack, Eff.bind_of_ok htaken]
  rfl

theorem unwindState_of_none
    (htaken : takeFrames h (.list stack) fuel 0 w = .ok (dropped, none) w') :
    unwindState h fuel (.runState state) (.fault fault) label w = (do
      increaseAttribute (.stats stats) "discarded_continuations" (.int dropped)
      let step ← readAttribute (.stats stats) "total_steps"
      return .fault (← reportFault (.fault fault) label step (.int dropped)) : Eff Value) w' := by
  obtain ⟨hreadStats, hreadStack⟩ := hstate.readAttribute_parts hstack hstats
  rw [unwindState, Eff.bind_of_ok hreadStats, Eff.bind_of_ok hreadStack, Eff.bind_of_ok htaken]

end taking

/-- **A boundary on the stack takes a fault over:** it is taken off with what stands above it, one
recovery and the items above it are counted, and the node that feeds its handler is the current one.
Only the note of it may be refused, and then the current node stays as it was. -/
theorem unwindState_of_boundary {i : Nat} {handler : Value} {recoveries discarded : Int}
    (hstate : IsRunState w state content) (hcontent : content.stack = .list stack)
    (hstats : content.stats = .stats stats) (hcounters : IsStats w stats counters)
    (hrecoveries : counters.totalRecoveries = .int recoveries)
    (hdiscarded : counters.discardedContinuations = .int discarded)
    (hstack : IsStack w stack (above ++ .frame i (.boundary handler) :: below))
    (habove : ∀ v ∈ above, v.isBoundary = false) (hfault : Seen (.fault fault))
    (hhandler : Seen handler) (hfuel : above.length < fuel) (label : Value) :
    let counters' := { counters with
      totalRecoveries := .int (recoveries + 1)
      discardedContinuations := .int (discarded + above.length) }
    let w' := (w.restacked stack below).recounted stats counters'
    (∃ text, unwindState h fuel (.runState state) (.fault fault) label w = .ok .none
      { w' with
        runStates := w.runStates.setIfInBounds state { content with
          current := .node w.stamps
            (.flatMap (.node (w.stamps + 1) (.done (.fault fault))) handler) }
        stamps := w.stamps + 2
        journal := w.journal.noted text }) ∨
    ∃ c, w.journal.recording = true ∧ w'.str? label = .error c ∧
      unwindState h fuel (.runState state) (.fault fault) label w = .error (.raised c.fault) w' := by
  intro counters' w'
  rw [unwindState_of_some hstate hcontent hstats label
    (takeFrames_of_boundary habove hstack hfuel)]
  have hcounters₁ : IsStats (w.restacked stack below) stats counters :=
    ⟨hcounters.content, hcounters.own⟩
  have hcaught := hcounters₁.increase "total_recoveries" 1 (by decide) rfl
    (congrArg some hrecoveries) rfl rfl
  have hdropped := (hcounters₁.recounted { counters with
    totalRecoveries := .int (recoveries + 1) }).increase "discarded_continuations" above.length
      (by decide) rfl (congrArg some hdiscarded) rfl rfl
  rw [World.recounted_recounted] at hdropped
  rw [Eff.bind_of_ok hcaught, Eff.bind_of_ok hdropped]
  change (∃ text, (Machine.recoveryNote fault label above.length >>= fun _ => _) w' = _) ∨
    ∃ c, _ ∧ _ ∧ (Machine.recoveryNote fault label above.length >>= fun _ => _) w' = _
  rcases Machine.recoveryNote_cases fault label above.length w' with
    ⟨text, hnote⟩ | ⟨c, hr, hl, hnote⟩
  · have hstate' : IsRunState (w'.noted text) state content := ⟨hstate.content, hstate.own⟩
    have hcurrent := hstate'.setCurrent (settle_handing hfault hhandler _) rfl
    refine .inl ⟨text, ?_⟩
    rw [Eff.bind_of_ok hnote, Eff.bind_of_ok hcurrent]
    rfl
  · exact .inr ⟨c, hr, hl, Eff.bind_of_error hnote⟩

/-- What the report of a failure is worded from. -/
def reportParts (w : World) (fault : Fault Value) (label step : Value) (discarded : Nat) :
    List Value :=
  (if w.isTruthy label then [label] else []) ++ [step, .fault fault, .int discarded]

/-- The report is worded with the place first: the text of the label, if there is something to it. -/
theorem reportFault_placed (cause label step discarded : Value) (w : World) :
    (∃ place, reportFault cause label step discarded w = (do
      let stepText ← Eff.ofExcept (w.str? step)
      let causeText ← Eff.ofExcept (w.str? cause)
      let discardedText ← Eff.ofExcept (w.str? discarded)
      let message := Machine.Failure.wording (w.isTruthy label) place cause.typeName causeText
        stepText discardedText
      return ⟨.suspendedEffectFailure, [.str message], .suspended cause label step discarded, 0⟩ :
        Eff (Fault Value)) w) ∨
    ∃ c, w.isTruthy label = true ∧ w.str? label = .error c ∧
      reportFault cause label step discarded w = .error (.raised c.fault) w := by
  rw [reportFault, Eff.bind_get]
  cases htruthy : w.isTruthy label with
  | false => exact .inl ⟨"", rfl⟩
  | true =>
    cases hl : w.str? label with
    | ok place => exact .inl ⟨place, rfl⟩
    | error c => exact .inr ⟨c, rfl, rfl, rfl⟩

/-- A failure is reported, unless something that the report is worded from has no text. -/
theorem reportFault_cases (fault : Fault Value) (label step : Value) (discarded : Nat) (w : World) :
    (∃ report, reportFault (.fault fault) label step (.int discarded) w = .ok report w ∧
      report.kind = .suspendedEffectFailure ∧
      report.detail = .suspended (.fault fault) label step (.int discarded)) ∨
    ∃ v ∈ reportParts w fault label step discarded, ∃ c, w.str? v = .error c ∧
      reportFault (.fault fault) label step (.int discarded) w = .error (.raised c.fault) w := by
  rcases reportFault_placed (.fault fault) label step (.int discarded) w with
    ⟨place, hplaced⟩ | ⟨c, htruthy, hl, hrefused⟩
  · have hpart {v : Value} (hv : v ∈ [step, .fault fault, .int discarded]) :
        v ∈ reportParts w fault label step discarded := List.mem_append_right _ hv
    rw [hplaced]
    cases hstep : w.str? step with
    | error c => exact .inr ⟨step, hpart List.mem_cons_self, c, hstep, rfl⟩
    | ok stepText =>
      cases hcause : w.str? (.fault fault) with
      | error c => exact .inr ⟨_, hpart (.tail _ List.mem_cons_self), c, hcause, rfl⟩
      | ok causeText =>
        cases hcount : w.str? (.int discarded) with
        | error c => exact .inr ⟨_, hpart (.tail _ (.tail _ List.mem_cons_self)), c, hcount, rfl⟩
        | ok discardedText => exact .inl ⟨_, rfl, rfl, rfl⟩
  · refine .inr ⟨label, ?_, c, hl, hrefused⟩
    rw [reportParts, htruthy]
    exact List.mem_cons_self

/-- **Without a boundary the stack is emptied:** its items are counted, and the result is a report
that tells of the fault and of their number.  Only its wording may be refused.  The current node and
the recoveries are as they were. -/
theorem unwindState_of_no_boundary {discarded : Int} (hstate : IsRunState w state content)
    (hcontent : content.stack = .list stack) (hstats : content.stats = .stats stats)
    (hcounters : IsStats w stats counters)
    (hdiscarded : counters.discardedContinuations = .int discarded)
    (hstack : IsStack w stack items) (hitems : ∀ v ∈ items, v.isBoundary = false)
    (hfuel : items.length < fuel) (label : Value) :
    let w' := (w.restacked stack []).recounted stats
      { counters with discardedContinuations := .int (discarded + items.length) }
    (∃ report, unwindState h fuel (.runState state) (.fault fault) label w =
        .ok (.fault report) w' ∧ report.kind = .suspendedEffectFailure ∧
      report.detail = .suspended (.fault fault) label counters.totalSteps (.int items.length)) ∨
    ∃ v ∈ reportParts w' fault label counters.totalSteps items.length, ∃ c, w'.str? v = .error c ∧
      unwindState h fuel (.runState state) (.fault fault) label w = .error (.raised c.fault) w' := by
  intro w'
  rw [unwindState_of_none hstate hcontent hstats label
    (takeFrames_of_no_boundary hitems hstack hfuel)]
  have hcounters₁ : IsStats (w.restacked stack []) stats counters :=
    ⟨hcounters.content, hcounters.own⟩
  have hdropped := hcounters₁.increase "discarded_continuations" items.length (by decide) rfl
    (congrArg some hdiscarded) rfl rfl
  have hstep : readAttribute (.stats stats) "total_steps" w' = .ok counters.totalSteps w' :=
    (hcounters₁.recounted _).readAttribute (by decide) rfl rfl
  rw [Eff.bind_of_ok hdropped, Eff.bind_of_ok hstep]
  rcases reportFault_cases fault label counters.totalSteps items.length w' with
    ⟨report, hreport, hkind, hdetail⟩ | ⟨v, hv, c, htext, hrefused⟩
  · exact .inl ⟨report, Eff.bind_of_ok hreport, hkind, hdetail⟩
  · exact .inr ⟨v, hv, c, htext, Eff.bind_of_error hrefused⟩

/-- A state of a run that scripts hold: three objects that hold what they were made to hold, the
frames on the stack and the numbers that unwinding changes. -/
structure Holds (w : World) (state stack stats : Nat) (current : Value) (items : List Value)
    (counters : Stats Value) (recoveries discarded : Int) : Prop where
  state : IsRunState w state ⟨current, .list stack, .stats stats⟩
  stack : IsStack w stack items
  stats : IsStats w stats counters
  recoveries : counters.totalRecoveries = .int recoveries
  discarded : counters.discardedContinuations = .int discarded
  handlers : ∀ i handler, .frame i (.boundary handler) ∈ items → Seen handler

end Script

/-- **What a fault does to a stack of frames.**  The continuations above the topmost boundary are
dropped and counted, and the boundary is taken off uncounted; what is below stays as it is, one
recovery is counted, and the current node becomes the one that feeds the fault to the handler, so that
the next frame does not make the stack deeper than it was.  Where there is no boundary all frames are
dropped and counted, current node and recoveries stay, and the result is a report that tells of the
fault and of their number.  No frame is called, whatever the host is.

This is so for the state of a run and for one that a script holds, unless a text is refused: that of
the label for the message in the journal, or one that the report is worded from. -/
theorem fault_unwinds (h : Host) (fault : Fault Value) (label : Value) (w : World) :
    (∀ s : Machine.State, fault.kind.isFailure = true →
      (∃ above handler below, (∀ f ∈ above, f.isBoundary = false) ∧
        s.stack.frames = above ++ .boundary handler :: below ∧
        ((∃ s' text, Machine.handleFault s fault label w = .ok (.next s') (w.noted text) ∧
            s.CaughtAs s' fault above.length handler below) ∨
          ∃ c, w.journal.recording = true ∧ w.str? label = .error c ∧
            Machine.handleFault s fault label w = .ok (.halted (.interrupted c.fault) s) w)) ∨
      (∀ f ∈ s.stack.frames, f.isBoundary = false) ∧ ∃ s', s.ClearedAs s' ∧
        ((∃ failure, Machine.handleFault s fault label w = .ok (.halted (.failed failure) s') w ∧
            failure.TellsOf s fault label) ∨
          ∃ c, Machine.words w fault label = .error c ∧
            Machine.handleFault s fault label w = .ok (.halted (.interrupted c.fault) s') w)) ∧
    ∀ {state stack stats : Nat} {current : Value} {items : List Value} {counters : Stats Value}
      {recoveries discarded : Int} {fuel : Nat},
      Script.Holds w state stack stats current items counters recoveries discarded →
      Script.Seen (.fault fault) → items.length < fuel →
      (∃ above i handler below, (∀ v ∈ above, v.isBoundary = false) ∧
        items = above ++ .frame i (.boundary handler) :: below ∧
        let w' := (w.restacked stack below).recounted stats { counters with
          totalRecoveries := .int (recoveries + 1)
          discardedContinuations := .int (discarded + above.length) }
        (∀ frame u, World.pushItem stack frame w' = .ok () u →
          (u.listItems stack).size ≤ (w.listItems stack).size) ∧
        ((∃ text, Script.unwindState h fuel (.runState state) (.fault fault) label w = .ok .none
            { w' with
              runStates := w.runStates.setIfInBounds state ⟨.node w.stamps
                (.flatMap (.node (w.stamps + 1) (.done (.fault fault))) handler), .list stack,
                .stats stats⟩
              stamps := w.stamps + 2
              journal := w.journal.noted text }) ∨
          ∃ c, w.journal.recording = true ∧ w'.str? label = .error c ∧
            Script.unwindState h fuel (.runState state) (.fault fault) label w =
              .error (.raised c.fault) w')) ∨
      (∀ v ∈ items, v.isBoundary = false) ∧
        let w' := (w.restacked stack []).recounted stats
          { counters with discardedContinuations := .int (discarded + items.length) }
        (∃ report, Script.unwindState h fuel (.runState state) (.fault fault) label w =
            .ok (.fault report) w' ∧ report.kind = .suspendedEffectFailure ∧
          report.detail = .suspended (.fault fault) label counters.totalSteps (.int items.length)) ∨
        ∃ v ∈ Script.reportParts w' fault label counters.totalSteps items.length, ∃ c,
          w'.str? v = .error c ∧
          Script.unwindState h fuel (.runState state) (.fault fault) label w =
            .error (.raised c.fault) w' := by
  refine ⟨fun s hfault => ?_, ?_⟩
  · rcases topmost_cases Frame.isBoundary s.stack.frames with
      ⟨above, frame, below, hframe, habove, hframes⟩ | hnone
    · cases frame with
      | continuation k => cases hframe
      | boundary handler =>
        exact .inl ⟨above, handler, below, habove, hframes,
          Machine.handleFault_of_boundary hfault habove hframes label w⟩
    · exact .inr ⟨hnone, Machine.handleFault_of_continuations hfault hnone label w⟩
  · intro state stack stats current items counters recoveries discarded fuel hheld hseen hfuel
    rcases topmost_cases Value.isBoundary items with
      ⟨above, v, below, hv, habove, rfl⟩ | hnone
    · obtain ⟨i, handler, rfl⟩ := Value.eq_frame_of_isBoundary hv
      have hhandler : Script.Seen handler := hheld.handlers i handler (by simp)
      have hshort : above.length < fuel := by
        rw [List.length_append] at hfuel
        omega
      refine .inl ⟨above, i, handler, below, habove, rfl, fun frame u hpush => ?_,
        Script.unwindState_of_boundary hheld.state rfl rfl hheld.stats hheld.recoveries
          hheld.discarded hheld.stack habove hseen hhandler hshort label⟩
      rw [((hheld.stack.restacked below).recounted stats _).size_of_pushItem hpush,
        hheld.stack.listItems, List.size_toArray, List.length_reverse, List.length_append,
        List.length_cons]
      exact Nat.le_add_left _ _
    · exact .inr ⟨hnone, Script.unwindState_of_no_boundary hheld.state rfl rfl hheld.stats
        hheld.discarded hheld.stack hnone hfuel label⟩

/-- A boundary between two continuations. -/
def guardedFrames : List (Frame Value) :=
  [.continuation (.operation .unit), .boundary (.operation .pure), .continuation (.operation .unit)]

/-- The session's world with a state of a run whose frames are these. -/
def Script.SessionInput.holding : World :=
  { SessionInput.recorded with
    lists := #[(guardedFrames.map (.frame 2)).reverse.toArray]
    stats := #[Stats.zero]
    runStates := #[⟨.unit, .list 0, .stats 0⟩]
    stamps := 4 }

/-- A fault above the boundary is caught there, in the state of a run as in one that a script holds. -/
theorem fault_unwinds_guarded :
    let fault : Fault Value := ⟨.valueError, [], .plain, 3⟩
    let s : Machine.State := ⟨.unit, ⟨guardedFrames, 3, rfl⟩, .zero⟩
    let h := Script.host Script.ampleFuel
    (∃ s' u, Machine.handleFault s fault (.str "label") Script.SessionInput.holding =
        .ok (.next s') u ∧ s'.counters.totalRecoveries = 1) ∧
      ∃ u, Script.unwindState h 4 (.runState 0) (.fault fault) (.str "label")
        Script.SessionInput.holding = .ok .none u := by
  intro fault s h
  have hheld : Script.Holds Script.SessionInput.holding 0 0 0 .unit (guardedFrames.map (.frame 2))
      Stats.zero 0 0 := by
    refine ⟨⟨rfl, fun _ => rfl⟩, ⟨rfl, rfl⟩, ⟨rfl, fun _ => rfl⟩, rfl, rfl, fun i g hg w => ?_⟩
    simp only [guardedFrames, List.map_cons, List.map_nil, List.mem_cons, Value.frame.injEq,
      Frame.boundary.injEq, reduceCtorEq, and_false, false_or, or_false, List.not_mem_nil] at hg
    rw [hg.2]
    rfl
  have hseen : Script.Seen (.fault fault) := fun _ => rfl
  obtain ⟨hrun, hscript⟩ :=
    fault_unwinds h fault (.str "label") Script.SessionInput.holding
  constructor
  · rcases hrun s rfl with ⟨above, g, below, -, -, ⟨s', text, hs', hcaught⟩ | ⟨c, -, hc, -⟩⟩ |
      ⟨hnone, -⟩
    · exact ⟨s', _, hs', by rw [hcaught.counters]; rfl⟩
    · cases hc
    · cases hnone _ (.tail _ List.mem_cons_self)
  · rcases hscript hheld hseen (show (guardedFrames.map (.frame 2)).length < 4 by decide) with
      ⟨above, i, g, below, -, -, -, ⟨text, hdone⟩ | ⟨c, -, hc, -⟩⟩ | ⟨hnone, -⟩
    · exact ⟨_, hdone⟩
    · cases hc
    · cases hnone _ (.tail _ List.mem_cons_self)

end EffectGraph
