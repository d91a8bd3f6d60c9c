import EffectGraph.Proofs.Direct

/-!
# The machine computes the meaning of a node

The plain machine, started on a node above any stack with any counters, arrives at what the node
evaluates to: at a finished node with the frames below untouched, at a fault with only the waiting
continuations on top of them, or at the end of the run (`Evaluates.arrives`).  Conversely a run that
ends has evaluated the node that it started from (`meant`).  Both are uniform in
the stack, because the handler of a boundary and the continuation of a sequence run above what is
left of it.

At the top, where there are no frames below, this makes the runs that end exactly the evaluations of
the node (`runs_iff`), with the counters of the run read off the cost.
-/

namespace EffectGraph

open Machine

namespace Machine.Counters

/-- Counters to which a cost was added above some frames. -/
def above (c : Counters) (depth : Nat) (k : Counters) : Counters where
  totalSteps := c.totalSteps + k.totalSteps
  totalEffects := c.totalEffects + k.totalEffects
  totalContinuations := c.totalContinuations + k.totalContinuations
  totalRecoveries := c.totalRecoveries + k.totalRecoveries
  maxStackDepth := max c.maxStackDepth (depth + k.maxStackDepth)
  discardedContinuations := c.discardedContinuations + k.discardedContinuations

/-- Counters are known by what they count. -/
theorem ext_counts {c d : Counters} (hs : c.totalSteps = d.totalSteps)
    (he : c.totalEffects = d.totalEffects) (hc : c.totalContinuations = d.totalContinuations)
    (hr : c.totalRecoveries = d.totalRecoveries) (hd : c.maxStackDepth = d.maxStackDepth)
    (hx : c.discardedContinuations = d.discardedContinuations) : c = d := by
  cases c
  cases d
  simp_all

section above

variable {c : Counters} {depth : Nat} (hd : depth ≤ c.maxStackDepth)
include hd

theorem above_zero : c.above depth .zero = c := by
  apply ext_counts <;> simp only [above, zero] <;> omega

theorem above_stepped : c.above depth Counters.zero.stepped = c.stepped := by
  apply ext_counts <;> simp only [above, zero, stepped] <;> omega

theorem above_acted : c.above depth Counters.zero.acted = c.acted := by
  apply ext_counts <;> simp only [above, zero, acted] <;> omega

end above

variable (c m n : Counters) (depth pending : Nat)

theorem le_above_entered :
    depth ≤ (((c.entered (depth + 1)).above (depth + 1) m).invoked).maxStackDepth := by
  simp only [above, entered, invoked]
  omega

theorem le_above_caught :
    depth ≤ (((((c.entered (depth + 1)).above (depth + 1) m).caught pending).entered
      (depth + 1)).invoked).maxStackDepth := by
  simp only [entered, invoked]
  omega

theorem above_framed : (c.entered (depth + 1)).above (depth + 1) m = c.above depth m.framed := by
  apply ext_counts <;> simp only [above, entered, framed] <;> omega

theorem above_framed_stepped :
    ((c.entered (depth + 1)).above (depth + 1) m).stepped = c.above depth m.framed.stepped := by
  apply ext_counts <;> simp only [above, entered, framed, stepped] <;> omega

theorem above_chained :
    (((c.entered (depth + 1)).above (depth + 1) m).invoked).above depth n =
      c.above depth (m.chained n) := by
  apply ext_counts <;> simp only [above, entered, invoked, chained] <;> omega

theorem above_chained_zero :
    ((c.entered (depth + 1)).above (depth + 1) m).invoked = c.above depth (m.chained .zero) := by
  apply ext_counts <;> simp only [above, entered, invoked, chained, zero] <;> omega

theorem above_rescued :
    (((((c.entered (depth + 1)).above (depth + 1) m).caught pending).entered
      (depth + 1)).invoked).above depth n = c.above depth (m.rescued pending n) := by
  apply ext_counts <;> simp only [above, entered, invoked, caught, dropping, rescued] <;> omega

theorem above_rescued_zero :
    ((((c.entered (depth + 1)).above (depth + 1) m).caught pending).entered (depth + 1)).invoked =
      c.above depth (m.rescued pending .zero) := by
  apply ext_counts <;> simp only [above, entered, invoked, caught, dropping, rescued, zero] <;> omega

end Machine.Counters

namespace Machine

/-- Entering a node counts the depth of the frame that is put on the stack. -/
theorem Stack.depth_push_le (B : Stack) (f : Frame Value) (c : Counters) :
    (B.push f).depth ≤ (c.entered (B.depth + 1)).maxStackDepth := Nat.le_max_right _ _

variable {h : Host} {settings : Settings}

/-! ### From the meaning to the machine -/

/-- **The machine arrives at a verdict** above a stack, with the given counters and world. -/
def Arrives (h : Host) (settings : Settings) (a : State × World) (verdict : Verdict) (B : Stack)
    (c : Counters) (w' : World) : Prop :=
  match verdict with
  | .value v => ∃ i, Reaches h settings a (⟨.node i (.done v), B, c⟩, w')
  | .failure fault label pending =>
    fault.kind.isFailure = true ∧ ∃ b s fs, Reaches h settings a b ∧
      step h settings b.1 b.2 = mishap s (fault, label) w' ∧ s.stack.frames = fs ++ B.frames ∧
      fs.length = pending ∧ (∀ f ∈ fs, f.isBoundary = false) ∧ s.counters = c
  | .unknown typeName pending =>
    ∃ b s, Reaches h settings a b ∧
      step h settings b.1 b.2 = .ok (.halted (.aborted (.unknownVariant typeName)) s) w' ∧
      s.stack = .empty ∧ s.counters = c.dropping (pending + B.depth)
  | .interrupt fault =>
    ∃ b s, Reaches h settings a b ∧
      step h settings b.1 b.2 = .ok (.halted (.interrupted fault) s) w' ∧ s.counters = c

namespace Arrives

variable {a b : State × World} {verdict : Verdict} {B : Stack} {c : Counters} {w' : World}

/-- What is arrived at from a state that is reached is arrived at from where it was reached. -/
theorem head (hab : Reaches h settings a b) (hb : Arrives h settings b verdict B c w') :
    Arrives h settings a verdict B c w' := by
  cases verdict with
  | value v =>
    obtain ⟨i, hi⟩ := hb
    exact ⟨i, hab.trans hi⟩
  | failure fault label pending =>
    obtain ⟨hfault, b', s, fs, hr, rest⟩ := hb
    exact ⟨hfault, b', s, fs, hab.trans hr, rest⟩
  | unknown typeName pending =>
    obtain ⟨b', s, hr, rest⟩ := hb
    exact ⟨b', s, hab.trans hr, rest⟩
  | interrupt fault =>
    obtain ⟨b', s, hr, rest⟩ := hb
    exact ⟨b', s, hab.trans hr, rest⟩

/-- A step that ends in a mishap arrives at it. -/
theorem of_mishap {s : State} {m : Mishap} (hstep : step h settings a.1 a.2 = mishap s m w') :
    Arrives h settings a (.ofMishap m) s.stack s.counters w' := by
  cases hm : m.1.kind.isFailure with
  | true =>
    rw [Verdict.ofMishap_of_failure hm]
    exact ⟨hm, a, s, [], .refl, hstep, rfl, rfl, fun f hf => (nomatch hf), rfl⟩
  | false =>
    rw [Verdict.ofMishap_of_interrupt hm]
    exact ⟨a, s, .refl, hstep.trans (mishap_of_interrupt hm w'), rfl⟩

/-- A continuation on the stack is passed by whatever is no value. -/
theorem outward {f : Value} (hv : verdict.isValue = false)
    (ha : Arrives h settings a verdict (B.push (.continuation f)) c w') :
    Arrives h settings a verdict.outward B c w' := by
  cases verdict with
  | value v => cases hv
  | failure fault label pending =>
    obtain ⟨hfault, b, s, fs, hr, hstep, hframes, hlen, hfs, hc⟩ := ha
    refine ⟨hfault, b, s, fs ++ [.continuation f], hr, hstep, ?_, ?_, ?_, hc⟩
    · rw [hframes, Stack.frames_push, List.append_assoc, List.singleton_append]
    · rw [List.length_append, hlen, List.length_singleton]
    · intro f' hf'
      rcases List.mem_append.1 hf' with hf' | hf'
      · exact hfs f' hf'
      · rw [List.mem_singleton.1 hf']
        rfl
  | unknown typeName pending =>
    obtain ⟨b, s, hr, hstep, hs, hc⟩ := ha
    refine ⟨b, s, hr, hstep, hs, ?_⟩
    rw [hc, Nat.add_right_comm, Nat.add_assoc]
    rfl
  | interrupt fault => exact ha

/-- A boundary on the stack is passed by what is neither a value nor a failure. -/
theorem outward_of_escapes {f : Frame Value} (hv : verdict.escapes = true)
    (ha : Arrives h settings a verdict (B.push f) c w') :
    Arrives h settings a verdict.outward B c w' := by
  cases verdict with
  | value v => cases hv
  | failure fault label pending => cases hv
  | unknown typeName pending =>
    obtain ⟨b, s, hr, hstep, hs, hc⟩ := ha
    refine ⟨b, s, hr, hstep, hs, ?_⟩
    rw [hc, Nat.add_right_comm, Nat.add_assoc]
    rfl
  | interrupt fault => exact ha

end Arrives

end Machine

section adequacy

variable {h : Host} {settings : Settings} (hp : settings.Plain)
include hp

/-- A recovery leads from the fault to the call of the handler, below the boundary. -/
theorem reaches_handler {a b : State × World} {s : State} {fs : List (Frame Value)} {g : Value}
    {fault : Fault Value} {label : Value} {B : Stack} {w w' : World}
    (hfault : fault.kind.isFailure = true) (hab : Reaches h settings a b)
    (hstep : step h settings b.1 b.2 = mishap s (fault, label) w)
    (hframes : s.stack.frames = fs ++ (B.push (.boundary g)).frames)
    (hfs : ∀ f ∈ fs, f.isBoundary = false)
    (hnote : recoveryNote fault label fs.length w = .ok () w') :
    Reaches h settings a (⟨.node 0 (.done (.fault fault)), B.push (.continuation g),
      (s.counters.caught fs.length).entered (B.depth + 1)⟩, w') := by
  have hlands : s.stack.unwind = ⟨fs.length, some (g, B)⟩ := Stack.unwind_of_boundary hframes hfs
  have hnext : Next h settings b (s.recovered fault fs.length g B, w') :=
    hstep.trans (mishap_of_noted hfault hlands hnote)
  exact (hab.tail hnext).tail (next_sequence hp 0 _ g B _ w')

/-- **What a node evaluates to is where the machine arrives,** above any stack.  The induction is on
the evaluation; the stack and the counters vary, because a source runs above the frame of the node
that it belongs to. -/
theorem Evaluates.arrives {node : Value} {w w' : World} {verdict : Verdict} {k : Counters}
    (he : Evaluates h node w verdict k w') (B : Stack) (c : Counters)
    (hd : B.depth ≤ c.maxStackDepth) :
    Arrives h settings (⟨node, B, c⟩, w) verdict B (c.above B.depth k) w' := by
  induction he generalizing B c with
  | @done i v w =>
    rw [Counters.above_zero hd]
    exact ⟨i, .refl⟩
  | @action i thunk label v w w' hrun =>
    rw [Counters.above_acted hd]
    exact ⟨0, .single (next_action hp hrun i B c)⟩
  | @actionMishap i thunk label m w w' hrun =>
    rw [Counters.above_stepped hd]
    refine Arrives.of_mishap (s := ⟨.node i (.delay thunk label), B, c.stepped⟩) ?_
    rw [step_action hp, Eff.bind_of_ok hrun]
  | @sequence i source f v node verdict m n w w₁ w₂ w₃ _ hf _ ihsource ihnode =>
    obtain ⟨j, hj⟩ := ihsource _ _ (B.depth_push_le (.continuation f) c)
    rw [← Counters.above_chained]
    exact Arrives.head
      (.head (next_sequence hp i source f B c w) (hj.tail (next_continuation hp hf j B _)))
      (ihnode B _ (Counters.le_above_entered ..))
  | @sequenceMishap i source f v mis m w w₁ w₂ _ hf ihsource =>
    obtain ⟨j, hj⟩ := ihsource _ _ (B.depth_push_le (.continuation f) c)
    rw [← Counters.above_chained_zero]
    refine Arrives.head (.head (next_sequence hp i source f B c w) hj)
      (Arrives.of_mishap (s := ⟨.node j (.done v), B, _⟩) ?_)
    rw [step_continuation hp, Eff.bind_of_ok hf]
    rfl
  | @sequenceStopped i source f verdict m w w₁ _ hstop ihsource =>
    rw [← Counters.above_framed]
    exact Arrives.head (.single (next_sequence hp i source f B c w))
      (Arrives.outward hstop (ihsource _ _ (B.depth_push_le (.continuation f) c)))
  | @region i source g v m w w₁ _ ihsource =>
    obtain ⟨j, hj⟩ := ihsource _ _ (B.depth_push_le (.boundary g) c)
    rw [← Counters.above_framed_stepped]
    exact ⟨j, .head (next_region hp i source g B c w) (hj.tail (next_boundary hp j v g B _ w₁))⟩
  | @rescue i source g fault label pending node verdict m n w w₁ w₂ w₃ w₄ _ hnote hg _ ihsource
      ihnode =>
    obtain ⟨hfault, b, s, fs, hr, hstep, hframes, rfl, hfs, hc⟩ :=
      ihsource _ _ (B.depth_push_le (.boundary g) c)
    have hreach := reaches_handler hp hfault hr hstep hframes hfs hnote
    rw [hc] at hreach
    rw [← Counters.above_rescued]
    exact Arrives.head
      (.head (next_region hp i source g B c w) (hreach.tail (next_continuation hp hg 0 B _)))
      (ihnode B _ (Counters.le_above_caught ..))
  | @rescueMishap i source g fault label pending mis m w w₁ w₂ w₃ _ hnote hg ihsource =>
    obtain ⟨hfault, b, s, fs, hr, hstep, hframes, rfl, hfs, hc⟩ :=
      ihsource _ _ (B.depth_push_le (.boundary g) c)
    have hreach := reaches_handler hp hfault hr hstep hframes hfs hnote
    rw [hc] at hreach
    rw [← Counters.above_rescued_zero]
    refine Arrives.head (.head (next_region hp i source g B c w) hreach)
      (Arrives.of_mishap (s := ⟨.node 0 (.done (.fault fault)), B, _⟩) ?_)
    rw [step_continuation hp, Eff.bind_of_ok hg]
    rfl
  | @rescueRefused i source g fault label pending refusal m w w₁ w₂ _ hnote ihsource =>
    obtain ⟨hfault, b, s, fs, hr, hstep, hframes, rfl, hfs, hc⟩ :=
      ihsource _ _ (B.depth_push_le (.boundary g) c)
    rw [← Counters.above_framed]
    refine ⟨b, s, .head (next_region hp i source g B c w) hr, ?_, hc⟩
    have hattempt : Eff.attempt (recoveryNote fault label fs.length) w₁ =
        .ok (.error refusal) w₂ := by
      simp only [Eff.attempt, hnote]
    rw [hstep, mishap_of_landing hfault (Stack.unwind_of_boundary hframes hfs), Eff.bind_of_ok hattempt]
    rfl
  | @regionPassed i source g verdict m w w₁ _ hpass ihsource =>
    rw [← Counters.above_framed]
    exact Arrives.head (.single (next_region hp i source g B c w))
      (Arrives.outward_of_escapes hpass (ihsource _ _ (B.depth_push_le (.boundary g) c)))
  | @unknown v w hv =>
    rw [Counters.above_stepped hd]
    exact ⟨_, _, .refl, step_unknown hp hv B c w, rfl, by rw [Nat.zero_add]⟩

end adequacy

/-! ### From the machine to the meaning -/

namespace Machine

/-- A run from a state ends within so many steps. -/
def EndsWithin (h : Host) (settings : Settings) (fuel : Nat) (a : State × World) : Prop :=
  ∃ r w', drive h settings fuel a.1 a.2 = .ok r w'

namespace EndsWithin

variable {h : Host} {settings : Settings} {fuel : Nat} {a b : State × World}

/-- A run that ends takes its first step. -/
theorem step_ok (ha : EndsWithin h settings fuel a) :
    ∃ p w', step h settings a.1 a.2 = .ok p w' := by
  obtain ⟨r, w', hrun⟩ := ha
  cases fuel with
  | zero => cases hrun
  | succ fuel =>
    obtain ⟨p, w₁, hstep, -⟩ := Eff.exists_of_bind_ok hrun
    exact ⟨p, w₁, hstep⟩

/-- It ends from every state on its way, within no more steps. -/
theorem of_reaches (ha : EndsWithin h settings fuel a) (hab : Reaches h settings a b) :
    ∃ fuel' ≤ fuel, EndsWithin h settings fuel' b := by
  obtain ⟨r, w', hrun⟩ := ha
  obtain ⟨fuel', hle, hrest⟩ := hab.drive_rest hrun
  exact ⟨fuel', hle, r, w', hrest⟩

/-- It ends from the next state within fewer steps. -/
theorem of_next (ha : EndsWithin h settings fuel a) (hab : Next h settings a b) :
    ∃ fuel' < fuel, EndsWithin h settings fuel' b := by
  obtain ⟨r, w', hrun⟩ := ha
  cases fuel with
  | zero => cases hrun
  | succ fuel =>
    rw [drive_of_next hab] at hrun
    exact ⟨fuel, Nat.lt_succ_self fuel, r, w', hrun⟩

end EndsWithin
end Machine

/-- Running a node comes to something. -/
def HasMeaning (h : Host) (node : Value) (w : World) : Prop :=
  ∃ verdict k w', Evaluates h node w verdict k w'

/-- What ends within so many steps has a meaning. -/
def Meant (h : Host) (settings : Settings) (fuel : Nat) : Prop :=
  ∀ ⦃node B c w⦄, B.depth ≤ c.maxStackDepth →
    EndsWithin h settings fuel (⟨node, B, c⟩, w) → HasMeaning h node w

section converse

variable {h : Host} {settings : Settings} (hp : settings.Plain) {fuel : Nat}
include hp

/-- Where a value is handed to a continuation, the continuation ends, and so does its node. -/
theorem applied_of_endsWithin (hmeant : ∀ n < fuel, Meant h settings n) {i : Nat} {v f : Value}
    {B : Stack} {c : Counters} {w : World} (hd : B.depth ≤ c.invoked.maxStackDepth)
    (hends : EndsWithin h settings fuel (⟨.node i (.done v), B.push (.continuation f), c⟩, w)) :
    (∃ node w₁, applied h f v w = .ok (.ok node) w₁ ∧ HasMeaning h node w₁) ∨
      ∃ mis w₁, applied h f v w = .ok (.error mis) w₁ := by
  obtain ⟨p, w', hstep⟩ := hends.step_ok
  rw [step_continuation hp] at hstep
  obtain ⟨answer, w₁, hf, -⟩ := Eff.exists_of_bind_ok hstep
  cases answer with
  | error mis => exact .inr ⟨mis, w₁, hf⟩
  | ok node =>
    obtain ⟨n, hn, hrest⟩ := hends.of_next (next_continuation hp hf i B c)
    exact .inl ⟨node, w₁, hf, hmeant n hn hd hrest⟩

/-- A suspended action whose run ends has a meaning. -/
theorem hasMeaning_delay {i : Nat} {thunk label : Value} {B : Stack} {c : Counters} {w : World}
    (hends : EndsWithin h settings fuel (⟨.node i (.delay thunk label), B, c⟩, w)) :
    HasMeaning h (.node i (.delay thunk label)) w := by
  obtain ⟨p, w', hstep⟩ := hends.step_ok
  rw [step_action hp] at hstep
  obtain ⟨answer, w₁, hrun, -⟩ := Eff.exists_of_bind_ok hstep
  cases answer with
  | ok v => exact ⟨_, _, _, .action hrun⟩
  | error mis => exact ⟨_, _, _, .actionMishap hrun⟩

/-- A sequence whose run ends has a meaning if what ends sooner has one. -/
theorem hasMeaning_flatMap (hmeant : ∀ n < fuel, Meant h settings n) {i : Nat} {source f : Value}
    {B : Stack} {c : Counters} {w : World}
    (hends : EndsWithin h settings fuel (⟨.node i (.flatMap source f), B, c⟩, w)) :
    HasMeaning h (.node i (.flatMap source f)) w := by
  obtain ⟨n, hn, hsource⟩ := hends.of_next (next_sequence hp i source f B c w)
  obtain ⟨verdict, m, w₁, he⟩ := hmeant n hn (B.depth_push_le (.continuation f) c) hsource
  cases hv : verdict.isValue with
  | false => exact ⟨_, _, _, .sequenceStopped he hv⟩
  | true =>
    cases verdict with
    | value v =>
      obtain ⟨j, hj⟩ := he.arrives hp _ _ (B.depth_push_le (.continuation f) c)
      obtain ⟨n', hn', hdone⟩ := hsource.of_reaches hj
      have hd := Counters.le_above_entered c m B.depth
      have hsooner := fun k (hk : k < n') => hmeant k (by omega)
      rcases applied_of_endsWithin hp hsooner hd hdone with
        ⟨node, w₂, hf, _, _, w₃, hnode⟩ | ⟨mis, w₂, hf⟩
      · exact ⟨_, _, _, .sequence he hf hnode⟩
      · exact ⟨_, _, _, .sequenceMishap he hf⟩
    | failure _ _ _ | unknown _ _ | interrupt _ => cases hv

/-- A guarded node whose run ends has a meaning if what ends sooner has one. -/
theorem hasMeaning_recover (hmeant : ∀ n < fuel, Meant h settings n) {i : Nat} {source g : Value}
    {B : Stack} {c : Counters} {w : World}
    (hends : EndsWithin h settings fuel (⟨.node i (.recover source g), B, c⟩, w)) :
    HasMeaning h (.node i (.recover source g)) w := by
  obtain ⟨n, hn, hsource⟩ := hends.of_next (next_region hp i source g B c w)
  obtain ⟨verdict, m, w₁, he⟩ := hmeant n hn (B.depth_push_le (.boundary g) c) hsource
  cases verdict with
  | value v => exact ⟨_, _, _, .region he⟩
  | unknown typeName pending => exact ⟨_, _, _, .regionPassed he rfl⟩
  | interrupt fault => exact ⟨_, _, _, .regionPassed he rfl⟩
  | failure fault label pending =>
    obtain ⟨hfault, b, s, fs, hr, hstep, hframes, rfl, hfs, hc⟩ :=
      he.arrives hp _ _ (B.depth_push_le (.boundary g) c)
    cases hnote : recoveryNote fault label fs.length w₁ with
    | ok _ w₂ =>
      obtain ⟨n', hn', hdone⟩ :=
        hsource.of_reaches (reaches_handler hp hfault hr hstep hframes hfs hnote)
      rw [hc] at hdone
      have hd := Counters.le_above_caught c m B.depth fs.length
      have hsooner := fun k (hk : k < n') => hmeant k (by omega)
      rcases applied_of_endsWithin hp hsooner hd hdone with
        ⟨node, w₃, hg, _, _, w₄, hnode⟩ | ⟨mis, w₃, hg⟩
      · exact ⟨_, _, _, .rescue he hnote hg hnode⟩
      · exact ⟨_, _, _, .rescueMishap he hnote hg⟩
    | error signal w₂ =>
      cases signal with
      | raised refusal => exact ⟨_, _, _, .rescueRefused he hnote⟩
      | exhausted =>
        obtain ⟨n', -, hb⟩ := hsource.of_reaches hr
        obtain ⟨p, w', hp'⟩ := hb.step_ok
        rw [hstep, mishap_of_landing hfault (Stack.unwind_of_boundary hframes hfs)] at hp'
        obtain ⟨_, _, hattempt, -⟩ := Eff.exists_of_bind_ok hp'
        simp only [Eff.attempt, hnote] at hattempt
        cases hattempt

/-- **A run that ends has evaluated the node that it started from.**  The induction is on the number
of steps: the run of a source is over sooner than the run of the node that it belongs to, and the
node that a continuation returns starts later. -/
theorem meant (fuel : Nat) : Meant h settings fuel := by
  induction fuel using Nat.strongRecOn with
  | ind fuel ih =>
    intro node B c w hd hends
    cases hk : node.isKnown with
    | false => exact ⟨_, _, _, .unknown hk⟩
    | true =>
      cases node with
      | node i n =>
        cases n with
        | done v => exact ⟨_, _, _, .done⟩
        | delay thunk label => exact hasMeaning_delay hp hends
        | flatMap source f => exact hasMeaning_flatMap hp ih hends
        | recover source g => exact hasMeaning_recover hp ih hends
        | foreign variant => cases hk
      | _ => cases hk

end converse

/-! ### Runs from one node -/

namespace Verdict

/-- How a run from a node with this verdict and cost ends; the wording of a failure may be refused. -/
def ending (w : World) (k : Counters) : Verdict → Ending
  | value v => .finished v
  | failure fault label pending =>
    match worded w fault label k.totalSteps pending with
    | .ok report => .failed report
    | .error c => .interrupted c.fault
  | unknown typeName _ => .aborted (.unknownVariant typeName)
  | interrupt fault => .interrupted fault

/-- What a run from a node with this verdict and cost counts in the end: a value takes one more step
to hand it out, and what no boundary caught drops all that waited. -/
def total (k : Counters) : Verdict → Counters
  | value _ => k.stepped
  | failure _ _ pending => k.dropping pending
  | unknown _ pending => k.dropping pending
  | interrupt _ => k

section ending

variable {verdict : Verdict} {w : World} {k : Counters}

theorem ending_eq_finished_iff {v : Value} :
    verdict.ending w k = .finished v ↔ verdict = .value v := by
  cases verdict with
  | value v' => simp [ending]
  | failure e label pending =>
    cases hw : worded w e label k.totalSteps pending <;> simp [ending, hw]
  | unknown typeName pending => simp [ending]
  | interrupt fault => simp [ending]

theorem ending_eq_failed_iff {f : Failure} :
    verdict.ending w k = .failed f ↔ ∃ e label pending,
      verdict = .failure e label pending ∧ worded w e label k.totalSteps pending = .ok f := by
  cases verdict with
  | value v' => simp [ending]
  | failure e label pending =>
    have hsame : (∃ e' label' pending', failure e label pending = failure e' label' pending' ∧
        worded w e' label' k.totalSteps pending' = .ok f) ↔
        worded w e label k.totalSteps pending = .ok f :=
      ⟨by rintro ⟨_, _, _, ⟨⟩, hf⟩; exact hf, fun hf => ⟨e, label, pending, rfl, hf⟩⟩
    rw [hsame]
    cases hw : worded w e label k.totalSteps pending <;> simp [ending, hw]
  | unknown typeName pending => simp [ending]
  | interrupt fault => simp [ending]

theorem ending_eq_aborted_iff {reason : Abort} :
    verdict.ending w k = .aborted reason ↔ ∃ typeName pending,
      reason = .unknownVariant typeName ∧ verdict = .unknown typeName pending := by
  cases verdict with
  | value v' => simp [ending]
  | failure e label pending =>
    cases hw : worded w e label k.totalSteps pending <;> simp [ending, hw]
  | unknown typeName pending => simp [ending, eq_comm]
  | interrupt fault => simp [ending]

theorem ending_eq_interrupted_iff {fault : Fault Value} :
    verdict.ending w k = .interrupted fault ↔ verdict = .interrupt fault ∨
      ∃ e label pending c, verdict = .failure e label pending ∧
        worded w e label k.totalSteps pending = .error c ∧ c.fault = fault := by
  cases verdict with
  | value v' => simp [ending]
  | failure e label pending =>
    have hsame : (∃ e' label' pending' c, failure e label pending = failure e' label' pending' ∧
        worded w e' label' k.totalSteps pending' = .error c ∧ c.fault = fault) ↔
        ∃ c, worded w e label k.totalSteps pending = .error c ∧ c.fault = fault :=
      ⟨by rintro ⟨_, _, _, c, ⟨⟩, hc⟩; exact ⟨c, hc⟩, fun ⟨c, hc⟩ => ⟨e, label, pending, c, rfl, hc⟩⟩
    rw [hsame]
    cases hw : worded w e label k.totalSteps pending <;> simp [ending, hw]
  | unknown typeName pending => simp [ending]
  | interrupt fault => simp [ending]

end ending

end Verdict

namespace Machine

/-- Without frames below, a cost is all that is counted. -/
theorem Counters.zero_above (k : Counters) : Counters.zero.above Stack.empty.depth k = k := by
  apply Counters.ext_counts <;> simp only [above, zero, Stack.empty] <;> omega

/-- With more fuel a run that has ended ends the same way. -/
theorem drive_of_le {h : Host} {settings : Settings} {fuel fuel' : Nat} (hle : fuel ≤ fuel')
    {s : State} {w w' : World} {r : Ending × State} (hrun : drive h settings fuel s w = .ok r w') :
    drive h settings fuel' s w = .ok r w' := by
  induction hle with
  | refl => exact hrun
  | step _ ih => exact drive_succ_of_ok ih

/-- A run ends in one way, whatever the fuel. -/
theorem drive_unique {h : Host} {settings : Settings} {fuel fuel' : Nat} {s : State}
    {w w₁ w₂ : World} {r₁ r₂ : Ending × State} (h₁ : drive h settings fuel s w = .ok r₁ w₁)
    (h₂ : drive h settings fuel' s w = .ok r₂ w₂) : r₁ = r₂ ∧ w₁ = w₂ := by
  have h₁' := drive_of_le (Nat.le_max_left fuel fuel') h₁
  rw [drive_of_le (Nat.le_max_right fuel fuel') h₂] at h₁'
  cases h₁'
  exact ⟨rfl, rfl⟩

/-- A run of one node from a world ends, with counters and a world. -/
def Runs (h : Host) (settings : Settings) (node : Value) (w : World) (e : Ending) (c : Counters)
    (w' : World) : Prop :=
  ∃ fuel s, drive h settings fuel (.start node) w = .ok (e, s) w' ∧ s.counters = c

end Machine

section runs

variable {h : Host} {settings : Settings} (hp : settings.Plain)
include hp

/-- What a node evaluates to is how its run ends. -/
theorem Evaluates.runs {node : Value} {w w' : World} {verdict : Verdict} {k : Counters}
    (he : Evaluates h node w verdict k w') :
    Runs h settings node w (verdict.ending w' k) (verdict.total k) w' := by
  have harr := he.arrives hp .empty .zero (Nat.le_refl 0)
  rw [Counters.zero_above] at harr
  cases verdict with
  | value v =>
    obtain ⟨i, hr⟩ := harr
    obtain ⟨fuel, hrun⟩ := hr.drive_halted (step_finished hp i v k w')
    exact ⟨fuel, _, hrun, rfl⟩
  | failure fault label pending =>
    obtain ⟨hfault, b, s, fs, hr, hstep, hframes, rfl, hfs, rfl⟩ := harr
    rw [Stack.frames_empty, List.append_nil] at hframes
    rw [← hframes] at hfs ⊢
    rw [mishap_of_no_landing hfault (Stack.unwind_of_continuations hfs)] at hstep
    obtain ⟨fuel, hrun⟩ := hr.drive_halted hstep
    exact ⟨fuel, _, hrun, rfl⟩
  | unknown typeName pending =>
    obtain ⟨b, s, hr, hstep, -, hc⟩ := harr
    obtain ⟨fuel, hrun⟩ := hr.drive_halted hstep
    exact ⟨fuel, s, hrun, hc⟩
  | interrupt fault =>
    obtain ⟨b, s, hr, hstep, hc⟩ := harr
    obtain ⟨fuel, hrun⟩ := hr.drive_halted hstep
    exact ⟨fuel, s, hrun, hc⟩

/-- **The runs that end are the evaluations of the node,** with the same ending, counters and
world. -/
theorem runs_iff {node : Value} {w w' : World} {e : Ending} {c : Counters} :
    Runs h settings node w e c w' ↔
      ∃ verdict k, Evaluates h node w verdict k w' ∧ verdict.ending w' k = e ∧ verdict.total k = c := by
  constructor
  · rintro ⟨fuel, s, hrun, rfl⟩
    obtain ⟨verdict, k, w₁, he⟩ :=
      meant hp fuel (B := .empty) (c := .zero) (Nat.le_refl 0) ⟨_, _, hrun⟩
    obtain ⟨fuel', s', hrun', hc⟩ := he.runs hp
    obtain ⟨hr, rfl⟩ := drive_unique hrun hrun'
    cases hr
    exact ⟨verdict, k, he, rfl, hc.symm⟩
  · rintro ⟨verdict, k, he, rfl, rfl⟩
    exact he.runs hp

end runs
end EffectGraph
