import EffectGraph.Proofs.Journal

/-!
# What a step can lead to

`Move` lists all that a step can do short of ending the run, whatever the settings: put a frame on
the stack, pass a boundary, hand a value to a continuation, perform an action, or catch the failure
of either below the nearest boundary.  A step that goes on is one of these moves, made in the world
in which tracing has described the node (`Next.move`), so what every move preserves is preserved by
every run.
-/

namespace EffectGraph

namespace Machine

variable {h : Host} {settings : Settings}

/-! ### Frames that are taken off -/

namespace Stack

variable {s rest : Stack}

/-- A boundary that is landed on stands on what is left, below the continuations that are dropped. -/
theorem exists_of_unwindFrames {frames rest : List (Frame Value)} {n dropped : Nat} {g : Value}
    (hf : unwindFrames frames n = (dropped, some (g, rest))) :
    ∃ fs, frames = fs ++ .boundary g :: rest ∧ (∀ f ∈ fs, f.isBoundary = false) ∧
      dropped = fs.length + n := by
  induction frames generalizing n with
  | nil => cases hf
  | cons f frames ih =>
    cases f with
    | boundary g' =>
      cases hf
      exact ⟨[], rfl, List.forall_mem_nil _, (Nat.zero_add _).symm⟩
    | continuation k =>
      obtain ⟨fs, rfl, hfs, rfl⟩ := ih hf
      refine ⟨.continuation k :: fs, rfl, List.forall_mem_cons.mpr ⟨rfl, hfs⟩, ?_⟩
      rw [List.length_cons, Nat.add_assoc, Nat.add_comm 1]

/-- **A failure that is caught takes frames away:** the continuations on top, and below them the
boundary. -/
theorem exists_of_unwind {dropped : Nat} {g : Value} (hs : s.unwind = ⟨dropped, some (g, rest)⟩) :
    ∃ fs, s.frames = fs ++ .boundary g :: rest.frames ∧ (∀ f ∈ fs, f.isBoundary = false) ∧
      fs.length = dropped := by
  unfold unwind at hs
  split at hs
  · cases hs
  · next hf =>
    cases hs
    obtain ⟨fs, hframes, hfs, hlen⟩ := exists_of_unwindFrames hf
    exact ⟨fs, hframes, hfs, hlen.symm⟩

/-- Where nothing is landed on, there is no boundary. -/
theorem forall_of_unwindFrames {frames : List (Frame Value)} {n dropped : Nat}
    (hf : unwindFrames frames n = (dropped, none)) :
    (∀ f ∈ frames, f.isBoundary = false) ∧ dropped = frames.length + n := by
  induction frames generalizing n with
  | nil =>
    cases hf
    exact ⟨List.forall_mem_nil _, (Nat.zero_add _).symm⟩
  | cons f frames ih =>
    cases f with
    | boundary g => cases hf
    | continuation k =>
      obtain ⟨hframes, rfl⟩ := ih hf
      refine ⟨List.forall_mem_cons.mpr ⟨rfl, hframes⟩, ?_⟩
      rw [List.length_cons, Nat.add_assoc, Nat.add_comm 1]

/-- **A failure that is not caught takes all frames away,** and all are continuations. -/
theorem forall_of_unwind {dropped : Nat} (hs : s.unwind = ⟨dropped, none⟩) :
    (∀ f ∈ s.frames, f.isBoundary = false) ∧ dropped = s.depth := by
  unfold unwind at hs
  split at hs
  · next hf =>
    cases hs
    obtain ⟨hframes, hlen⟩ := forall_of_unwindFrames hf
    exact ⟨hframes, hlen.trans s.depth_eq.symm⟩
  · cases hs

theorem depth_of_unwind {dropped : Nat} {g : Value} (hs : s.unwind = ⟨dropped, some (g, rest)⟩) :
    rest.depth < s.depth := by
  obtain ⟨fs, hframes, -⟩ := exists_of_unwind hs
  rw [rest.depth_eq, s.depth_eq, hframes, List.length_append, List.length_cons]
  omega

/-- The frame that is taken off was the topmost. -/
theorem eq_push_of_pop? {f : Frame Value} (hs : s.pop? = some (f, rest)) : s = rest.push f := by
  unfold pop? at hs
  split at hs
  · cases hs
  · next hframes =>
    cases hs
    exact ext_frames hframes

/-- A stack without a topmost frame is empty. -/
theorem eq_empty_of_pop? (hs : s.pop? = none) : s = .empty := by
  unfold pop? at hs
  split at hs
  · next hframes => exact ext_frames hframes
  · cases hs

end Stack

/-! ### Moves -/

/-- The state in which the topmost frame has been taken off to be invoked. -/
def State.handed (s : State) (rest : Stack) : State :=
  { s with
    stack := rest
    counters := { s.counters with totalContinuations := s.counters.totalContinuations + 1 } }

/-- **What a step can lead to,** its number counted and its node described. -/
inductive Move (h : Host) (s : State) (w : World) : State → World → Prop where
  | push {i source f} (hc : s.current = .node i (.flatMap source f)) :
      Move h s w (s.enter (.continuation f) source) w
  | guard {i source g} (hc : s.current = .node i (.recover source g)) :
      Move h s w (s.enter (.boundary g) source) w
  | pass {i v g rest} (hc : s.current = .node i (.done v)) (hs : s.stack = rest.push (.boundary g)) :
      Move h s w { s with stack := rest } w
  | hand {i v f rest node w'} (hc : s.current = .node i (.done v))
      (hs : s.stack = rest.push (.continuation f)) (hf : applied h f v w = .ok (.ok node) w') :
      Move h s w { s with
        current := node
        stack := rest
        counters := { s.counters with
          totalContinuations := s.counters.totalContinuations + 1 } } w'
  | act {i thunk label v w'} (hc : s.current = .node i (.delay thunk label))
      (hrun : performed h thunk label w = .ok (.ok v) w') :
      Move h s w { s with
        current := .done v
        counters := { s.counters with totalEffects := s.counters.totalEffects + 1 } } w'
  /-- A continuation fails, and a boundary below it catches the failure. -/
  | handCaught {i v f below mis dropped g rest w' w''} (hc : s.current = .node i (.done v))
      (hs : s.stack = below.push (.continuation f)) (hf : applied h f v w = .ok (.error mis) w')
      (hfault : mis.1.kind.isFailure = true) (hlands : below.unwind = ⟨dropped, some (g, rest)⟩)
      (hnote : recoveryNote mis.1 mis.2 dropped w' = .ok () w'') :
      Move h s w (State.recovered { s with
        stack := below
        counters := { s.counters with
          totalContinuations := s.counters.totalContinuations + 1 } } mis.1 dropped g rest) w''
  /-- An action fails, and a boundary below it catches the failure. -/
  | actCaught {i thunk label mis dropped g rest w' w''}
      (hc : s.current = .node i (.delay thunk label))
      (hrun : performed h thunk label w = .ok (.error mis) w')
      (hfault : mis.1.kind.isFailure = true) (hlands : s.stack.unwind = ⟨dropped, some (g, rest)⟩)
      (hnote : recoveryNote mis.1 mis.2 dropped w' = .ok () w'') :
      Move h s w (s.recovered mis.1 dropped g rest) w''

variable {s s' : State} {w w' : World}

/-- A state that is gone on with is the state itself. -/
theorem eq_of_checkLimit (hs : checkLimit settings s = .next s') : s' = s := by
  unfold checkLimit at hs
  split at hs
  · cases hs
    rfl
  · split at hs
    · split at hs <;> cases hs
    · cases hs
      rfl
  · cases hs

/-- A mishap that does not end the run is a failure that a boundary catches. -/
theorem exists_of_mishap {mis : Mishap} (hm : mishap s mis w = .ok (.next s') w') :
    mis.1.kind.isFailure = true ∧ ∃ dropped g rest, s.stack.unwind = ⟨dropped, some (g, rest)⟩ ∧
      recoveryNote mis.1 mis.2 dropped w = .ok () w' ∧ s' = s.recovered mis.1 dropped g rest := by
  cases hfault : mis.1.kind.isFailure with
  | false =>
    rw [mishap_of_interrupt hfault] at hm
    cases hm
  | true =>
    refine ⟨rfl, ?_⟩
    rcases hs : s.stack.unwind with ⟨dropped, _ | ⟨g, rest⟩⟩
    · rw [mishap_of_no_landing hfault hs] at hm
      cases hm
    · rw [mishap_of_landing hfault hs] at hm
      obtain ⟨r, w₁, hnote, hm⟩ := Eff.exists_of_bind_ok hm
      cases r with
      | error refusal => cases hm
      | ok _ =>
        cases hm
        exact ⟨dropped, g, rest, rfl, Eff.ok_of_attempt hnote, rfl⟩

/-- A finished node that does not end the run passes a boundary or hands on its value. -/
theorem move_of_done {i : Nat} {v : Value} (hc : s.current = .node i (.done v))
    (hs : dispatch h settings s w = .ok (.next s') w') : Move h s w s' w' := by
  simp only [dispatch, hc] at hs
  rcases hpop : s.stack.pop? with _ | ⟨f | g, below⟩
  · rw [hpop] at hs
    cases hs
  · rw [hpop] at hs
    simp only [continueWith_eq] at hs
    obtain ⟨answer, w₁, hf, hs⟩ := Eff.exists_of_bind_ok hs
    cases answer with
    | ok node =>
      obtain ⟨hnext, rfl⟩ := EStateM.Result.ok.inj hs
      rw [eq_of_checkLimit hnext]
      exact .hand hc (Stack.eq_push_of_pop? hpop) hf
    | error mis =>
      obtain ⟨hfault, dropped, g, rest, hlands, hnote, rfl⟩ := exists_of_mishap hs
      exact .handCaught hc (Stack.eq_push_of_pop? hpop) hf hfault hlands hnote
  · rw [hpop] at hs
    cases hs
    rw [← hc]
    exact .pass hc (Stack.eq_push_of_pop? hpop)

/-- A suspended action that does not end the run is performed. -/
theorem move_of_delay {i : Nat} {thunk label : Value} (hc : s.current = .node i (.delay thunk label))
    (hs : dispatch h settings s w = .ok (.next s') w') : Move h s w s' w' := by
  simp only [dispatch, hc, perform_eq] at hs
  obtain ⟨answer, w₁, hrun, hs⟩ := Eff.exists_of_bind_ok hs
  cases answer with
  | ok v =>
    obtain ⟨hnext, rfl⟩ := EStateM.Result.ok.inj hs
    rw [eq_of_checkLimit hnext]
    exact .act hc hrun
  | error mis =>
    obtain ⟨hfault, dropped, g, rest, hlands, hnote, rfl⟩ := exists_of_mishap hs
    exact .actCaught hc hrun hfault hlands hnote

/-- A node that is looked at and does not end the run makes a move. -/
theorem move_of_dispatch (hs : dispatch h settings s w = .ok (.next s') w') : Move h s w s' w' := by
  cases hk : s.current.isKnown with
  | false =>
    rw [dispatch_unknown hk] at hs
    cases hs
  | true =>
    cases hc : s.current with
    | node i n =>
      cases n with
      | done v => exact move_of_done hc hs
      | delay thunk label => exact move_of_delay hc hs
      | flatMap source f =>
        simp only [dispatch, hc] at hs
        obtain ⟨hnext, rfl⟩ := EStateM.Result.ok.inj hs
        rw [eq_of_checkLimit hnext]
        exact .push hc
      | recover source g =>
        simp only [dispatch, hc] at hs
        obtain ⟨hnext, rfl⟩ := EStateM.Result.ok.inj hs
        rw [eq_of_checkLimit hnext]
        exact .guard hc
      | foreign variant =>
        rw [hc] at hk
        cases hk
    | _ =>
      rw [hc] at hk
      cases hk

/-- Before it is run a node may be described in the journal. -/
def Described (w w' : World) : Prop := w' = w ∨ ∃ text, w' = w.noted text

/-- If a step is written into the journal, its node can be put into words. -/
def Settings.Shows (settings : Settings) (s : State) (w : World) : Prop :=
  w.isTruthy settings.trace = true → ∃ text, w.describe? s.current = .ok text

/-- The world in which the node of a state is looked at: with tracing on, its step has been written
into the journal. -/
def Settings.seen (settings : Settings) (s : State) (w : World) : World :=
  if w.isTruthy settings.trace then
    match w.describe? s.current with
    | .ok text =>
      w.noted ("step " ++ s.counted.counters.totalSteps.repr ++ " depth=" ++
        s.counted.stack.depth.repr ++ " " ++ text)
    | .error _ => w
  else w

theorem described_seen (settings : Settings) (s : State) (w : World) :
    Described w (settings.seen s w) := by
  unfold Settings.seen
  split
  · split
    · exact .inr ⟨_, rfl⟩
    · exact .inl rfl
  · exact .inl rfl

/-- **A step that can be written into the journal** looks at its node in the world as it is then. -/
theorem step_eq_dispatch (hs : settings.Shows s w) :
    step h settings s w = dispatch h settings s.counted (settings.seen s w) := by
  rw [step, Eff.bind_get, Settings.seen]
  cases ht : w.isTruthy settings.trace with
  | false => rfl
  | true =>
    obtain ⟨text, hd⟩ := hs ht
    have hcurrent : w.describe? s.counted.current = .ok text := hd
    refine (Eff.bind_get).trans ?_
    rw [hcurrent, hd]
    exact Eff.bind_of_ok (World.note_apply _ w)

/-- A step that can be written into the journal is taken. -/
theorem step_of_shows (hs : settings.Shows s w) :
    ∃ w', Described w w' ∧ step h settings s w = dispatch h settings s.counted w' :=
  ⟨_, described_seen settings s w, step_eq_dispatch hs⟩

/-- With tracing on, a step whose node cannot be put into words is the last. -/
theorem step_of_undescribed {c : Complaint} (ht : w.isTruthy settings.trace = true)
    (hd : w.describe? s.current = .error c) :
    step h settings s w = .ok (.halted (.interrupted c.fault) s.counted) w := by
  have hcurrent : w.describe? s.counted.current = .error c := hd
  rw [step, Eff.bind_get, ht]
  refine (Eff.bind_get).trans ?_
  rw [hcurrent]
  rfl

/-- A step that cannot be written into the journal is the last. -/
theorem step_of_not_shows (hs : ¬ settings.Shows s w) :
    ∃ fault, step h settings s w = .ok (.halted (.interrupted fault) s.counted) w := by
  obtain ⟨ht, hd⟩ := Classical.not_imp.mp hs
  cases hc : w.describe? s.current with
  | ok text => exact absurd ⟨text, hc⟩ hd
  | error c => exact ⟨c.fault, step_of_undescribed ht hc⟩

/-- **A step that goes on is a move,** made in the world in which its node is looked at. -/
theorem Next.move_seen {a b : State × World} (hab : Next h settings a b) :
    Move h a.1.counted (settings.seen a.1 a.2) b.1 b.2 := by
  by_cases hs : settings.Shows a.1 a.2
  · rw [Next, step_eq_dispatch hs] at hab
    exact move_of_dispatch hab
  · obtain ⟨fault, hstep⟩ := step_of_not_shows (h := h) hs
    rw [Next, hstep] at hab
    cases hab

theorem Next.move {a b : State × World} (hab : Next h settings a b) :
    ∃ w, Described a.2 w ∧ Move h a.1.counted w b.1 b.2 :=
  ⟨_, described_seen settings a.1 a.2, hab.move_seen⟩

end Machine
end EffectGraph
