import EffectGraph.Proofs.Agreement
import EffectGraph.Proofs.Moves

/-!
# Runs with a limit on the stack

A limit is looked at after some steps only: not after a boundary was passed, nor after a failure was
caught.  These only take frames away, so below its limit a limited machine takes the steps of a free
one, unless the step leads above the limit (`step_capped`); and then the step has just put one frame
on the stack (`Move.deepens`).  A limited run therefore goes through the states of the free run up to
the first that is too deep, and ends there in the world in which the frame was put on the stack
(`runReport_limited`).
-/

namespace EffectGraph

open Machine

namespace Machine

variable {h : Host}

/-! ### How moves change the stack -/

/-- **Only a frame that is put on the stack deepens it,** by one, and nothing is invoked then. -/
theorem Move.deepens {s s' : State} {w w' : World} (hm : Move h s w s' w') :
    (s'.stack.depth ≤ s.stack.depth ∧ s'.counters.maxStackDepth = s.counters.maxStackDepth) ∨
      ∃ frame source, s' = s.enter frame source ∧ w' = w := by
  cases hm with
  | push hc => exact .inr ⟨_, _, rfl, rfl⟩
  | guard hc => exact .inr ⟨_, _, rfl, rfl⟩
  | pass hc hs =>
    rw [hs]
    exact .inl ⟨Nat.le_succ _, rfl⟩
  | hand hc hs hf =>
    rw [hs]
    exact .inl ⟨Nat.le_succ _, rfl⟩
  | act hc hrun => exact .inl ⟨Nat.le_refl _, rfl⟩
  | handCaught hc hs hf hfault hlands hnote =>
    rw [hs]
    exact .inl ⟨Nat.le_of_lt (Nat.lt_succ_of_lt (Stack.depth_of_unwind hlands)), rfl⟩
  | actCaught hc hrun hfault hlands hnote =>
    exact .inl ⟨Nat.le_of_lt (Stack.depth_of_unwind hlands), rfl⟩

/-- A move counts no step; that was done before it. -/
theorem Move.totalSteps_eq {s s' : State} {w w' : World} (hm : Move h s w s' w') :
    s'.counters.totalSteps = s.counters.totalSteps := by
  cases hm <;> rfl

variable {settings : Settings} {a b c : State × World}

theorem Next.totalSteps_eq (hab : Next h settings a b) :
    b.1.counters.totalSteps = a.1.counters.totalSteps + 1 := by
  obtain ⟨w, -, hm⟩ := hab.move
  exact hm.totalSteps_eq

theorem Reaches.totalSteps_le (hab : Reaches h settings a b) :
    a.1.counters.totalSteps ≤ b.1.counters.totalSteps := by
  induction hab with
  | refl => exact Nat.le_refl _
  | tail _ hbc ih =>
    rw [hbc.totalSteps_eq]
    exact Nat.le_succ_of_le ih

/-- A step leads to one state and world. -/
theorem next_rightUnique : Relator.RightUnique (Next h settings) := by
  rintro a ⟨s, w⟩ ⟨s', w'⟩ hab hac
  rw [Next, hab] at hac
  cases hac
  rfl

/-! ### One step below the limit -/

/-- What a limit makes of a progress: a state that exceeds it is not gone on with. -/
def Settings.cap (settings : Settings) : Progress → Progress
  | .next s => checkLimit settings s
  | .halted ending s => .halted ending s

/-- How a run ends whose stack has exceeded the limit. -/
def Settings.overflow (settings : Settings) (depth : Nat) : Ending :=
  match settings.limitText with
  | .ok text => .aborted (.overflow settings.limit text depth)
  | .error c => .interrupted c.fault

section capped

variable {limited free : Settings} {L : Nat} (hL : limited.bound = .atMost L)
include hL

theorem checkLimit_of_depth_le {s : State} (hs : s.stack.depth ≤ L) :
    checkLimit limited s = .next s := by
  have hdepth : ¬ (s.stack.depth : Int) > L := by omega
  simp only [checkLimit, hL, if_neg hdepth]

theorem checkLimit_of_lt_depth {s : State} (hs : L < s.stack.depth) :
    checkLimit limited s = .halted (limited.overflow s.stack.depth) s.cleared := by
  have hdepth : (s.stack.depth : Int) > L := by omega
  simp only [checkLimit, hL, if_pos hdepth, Settings.overflow]
  cases limited.limitText <;> rfl

/-- A fault that is dealt with below the limit leads nowhere above it. -/
theorem cap_handleFault {s : State} (hs : s.stack.depth ≤ L) (fault : Fault Value) (label : Value) :
    limited.cap <$> handleFault s fault label = handleFault s fault label := by
  unfold handleFault
  split
  · rfl
  · split
    · next hunwind =>
      rw [map_bind]
      refine bind_congr fun r => ?_
      cases r with
      | error refusal => rfl
      | ok _ =>
        have hrest := Stack.depth_of_unwind hunwind
        rw [map_pure]
        exact congrArg pure (checkLimit_of_depth_le hL (by simp only [State.recovered]; omega))
    · rw [map_bind]
      refine bind_congr fun r => ?_
      cases r <;> rfl

variable (hfree : free.bound = .unlimited)
include hfree

/-- A finished node above a continuation goes on as without a limit, up to the limit. -/
theorem cap_continueWith {s : State} (hs : s.stack.depth ≤ L) (f v : Value) :
    continueWith h limited s f v = limited.cap <$> continueWith h free s f v := by
  rw [continueWith_eq, continueWith_eq, map_bind]
  refine bind_congr fun answer => ?_
  cases answer with
  | ok node =>
    rw [map_pure, checkLimit_of_unbounded hfree]
    rfl
  | error mis =>
    refine (cap_handleFault hL ?_ mis.1 mis.2).symm
    exact hs

/-- So does a suspended action. -/
theorem cap_perform {s : State} (hs : s.stack.depth ≤ L) (thunk label : Value) :
    perform h limited s thunk label = limited.cap <$> perform h free s thunk label := by
  rw [perform_eq, perform_eq, map_bind]
  refine bind_congr fun answer => ?_
  cases answer with
  | ok v =>
    rw [map_pure, checkLimit_of_unbounded hfree]
    rfl
  | error mis => exact (cap_handleFault hL hs mis.1 mis.2).symm

/-- And so does every node. -/
theorem cap_dispatch {s : State} (hs : s.stack.depth ≤ L) :
    dispatch h limited s = limited.cap <$> dispatch h free s := by
  cases hk : s.current.isKnown with
  | false =>
    rw [dispatch_unknown hk, dispatch_unknown hk]
    rfl
  | true =>
    cases hc : s.current with
    | node i n =>
      cases n with
      | done v =>
        simp only [dispatch, hc]
        rcases hpop : s.stack.pop? with _ | ⟨f | g, below⟩
        · rfl
        · have hbelow : below.depth ≤ L := by
            rw [Stack.eq_push_of_pop? hpop] at hs
            exact Nat.le_of_succ_le hs
          exact cap_continueWith hL hfree hbelow f v
        · have hbelow : below.depth ≤ L := by
            rw [Stack.eq_push_of_pop? hpop] at hs
            exact Nat.le_of_succ_le hs
          exact congrArg pure (checkLimit_of_depth_le hL hbelow).symm
      | delay thunk label =>
        simp only [dispatch, hc]
        exact cap_perform hL hfree hs thunk label
      | flatMap source f =>
        simp only [dispatch, hc, checkLimit_of_unbounded hfree]
        rfl
      | recover source g =>
        simp only [dispatch, hc, checkLimit_of_unbounded hfree]
        rfl
      | foreign variant =>
        rw [hc] at hk
        cases hk
    | _ =>
      rw [hc] at hk
      cases hk

/-- **Below the limit a step is that of the machine without a limit,** unless it leads above it. -/
theorem step_capped (htrace : limited.trace = free.trace) {s : State} (hs : s.stack.depth ≤ L) :
    step h limited s = limited.cap <$> step h free s := by
  have hdispatch : dispatch h limited s.counted = limited.cap <$> dispatch h free s.counted :=
    cap_dispatch hL hfree hs
  unfold step
  rw [map_bind, htrace]
  refine bind_congr fun w => ?_
  split
  · rw [map_bind]
    refine bind_congr fun w' => ?_
    split
    · rfl
    · rw [map_bind]
      exact bind_congr fun _ => hdispatch
  · exact hdispatch

end capped

/-! ### Limited runs -/

/-- Settings that differ in nothing but the limit that one of them has. -/
structure Settings.Limits (limited free : Settings) (L : Nat) : Prop where
  bound : limited.bound = .atMost L
  unbounded : free.bound = .unlimited
  trace : limited.trace = free.trace

section runs

variable {limited free : Settings} {L : Nat} (hs : limited.Limits free L) {start : State × World}
include hs

/-- Below the limit, the limited machine takes a step that leads below the limit. -/
theorem next_limited_iff (ha : a.1.stack.depth ≤ L) :
    Next h limited a b ↔ Next h free a b ∧ b.1.stack.depth ≤ L := by
  have hstep := congrFun (step_capped (h := h) hs.bound hs.unbounded hs.trace ha) a.2
  unfold Next
  rw [hstep]
  constructor
  · intro hnext
    obtain ⟨p, w, hp, hcap, rfl⟩ := Eff.exists_of_map_ok hnext
    cases p with
    | halted ending s => cases hcap
    | next s =>
      cases Nat.lt_or_ge L s.stack.depth with
      | inl hlt =>
        rw [Settings.cap, checkLimit_of_lt_depth hs.bound hlt] at hcap
        cases hcap
      | inr hle =>
        rw [Settings.cap, checkLimit_of_depth_le hs.bound hle] at hcap
        cases hcap
        exact ⟨hp, hle⟩
  · rintro ⟨hnext, hb⟩
    rw [Eff.map_of_ok hnext, Settings.cap, checkLimit_of_depth_le hs.bound hb]

/-- A step that leads above the limit is the last one. -/
theorem step_limited_of_lt_depth (ha : a.1.stack.depth ≤ L) (hab : Next h free a b)
    (hb : L < b.1.stack.depth) : step h limited a.1 a.2 =
      .ok (.halted (limited.overflow b.1.stack.depth) b.1.cleared) b.2 := by
  rw [step_capped hs.bound hs.unbounded hs.trace ha, Eff.map_of_ok hab, Settings.cap,
    checkLimit_of_lt_depth hs.bound hb]

/-- A limited run goes through states of the free run, none of them too deep. -/
theorem Reaches.of_limited (hstart : start.1.stack.depth ≤ L) (hb : Reaches h limited start b) :
    Reaches h free start b ∧ b.1.stack.depth ≤ L := by
  induction hb with
  | refl => exact ⟨.refl, hstart⟩
  | tail _ hbc ih =>
    obtain ⟨hnext, hc⟩ := (next_limited_iff hs ih.2).1 hbc
    exact ⟨ih.1.tail hnext, hc⟩

/-- A state of the free run is one of the limited run, or comes after a step that was too deep. -/
theorem Reaches.limited_or (hstart : start.1.stack.depth ≤ L) (hc : Reaches h free start c) :
    Reaches h limited start c ∨ ∃ a b, Reaches h limited start a ∧ Next h free a b ∧
      L < b.1.stack.depth ∧ Reaches h free b c := by
  induction hc with
  | refl => exact .inl .refl
  | @tail c d _ hcd ih =>
    rcases ih with hlimited | ⟨a, b, ha, hab, hb, hbc⟩
    · have hc := (hlimited.of_limited hs hstart).2
      cases Nat.lt_or_ge L d.1.stack.depth with
      | inl hlt => exact .inr ⟨c, d, hlimited, hcd, hlt, .refl⟩
      | inr hle => exact .inl (hlimited.tail ((next_limited_iff hs hc).2 ⟨hcd, hle⟩))
    · exact .inr ⟨a, b, ha, hab, hb, hbc.tail hcd⟩

/-- **A run that is never too deep has the same states with the limit.** -/
theorem reaches_limited_iff (hdepth : ∀ b, Reaches h free start b → b.1.stack.depth ≤ L) :
    Reaches h limited start b ↔ Reaches h free start b := by
  have hstart := hdepth start .refl
  refine ⟨fun hb => (hb.of_limited hs hstart).1, fun hb => ?_⟩
  rcases hb.limited_or hs hstart with hlimited | ⟨a, c, ha, hac, hc, -⟩
  · exact hlimited
  · have := hdepth c ((ha.of_limited hs hstart).1.tail hac)
    omega

/-- **And it ends in the same way,** if it ends. -/
theorem drive_limited_eq (hdepth : ∀ b, Reaches h free start b → b.1.stack.depth ≤ L) (fuel : Nat) :
    drive h limited fuel start.1 start.2 = drive h free fuel start.1 start.2 := by
  induction fuel generalizing start with
  | zero => rfl
  | succ fuel ih =>
    have hstep := congrFun
      (step_capped (h := h) hs.bound hs.unbounded hs.trace (hdepth start .refl)) start.2
    cases hfree : step h free start.1 start.2 with
    | error signal w =>
      rw [Eff.map_of_error hfree] at hstep
      exact (Eff.bind_of_error hstep).trans (Eff.bind_of_error hfree).symm
    | ok p w =>
      rw [Eff.map_of_ok hfree] at hstep
      cases p with
      | halted ending s => rw [drive_of_halted hfree, drive_of_halted hstep]
      | next s =>
        have hnext : Next h free start (s, w) := hfree
        rw [Settings.cap, checkLimit_of_depth_le hs.bound (hdepth _ (.single hnext))] at hstep
        rw [drive_of_next hfree, drive_of_next hstep]
        exact ih fun b hb => hdepth b (.head hnext hb)

/-- From a state whose step would lead above the limit, the limited machine goes nowhere. -/
theorem eq_of_reaches_limited (ha : a.1.stack.depth ≤ L) (hab : Next h free a b)
    (hb : L < b.1.stack.depth) (hac : Reaches h limited a c) : c = a := by
  rcases hac.cases_head with rfl | ⟨d, had, -⟩
  · rfl
  · obtain ⟨hnext, hd⟩ := (next_limited_iff hs ha).1 had
    rw [next_rightUnique hnext hab] at hd
    omega

/-- The states of a limited run that exceeds its limit are those before the step that does so. -/
theorem reaches_limited_iff_of_lt_depth (hstart : start.1.stack.depth ≤ L)
    (ha : Reaches h limited start a) (hab : Next h free a b) (hb : L < b.1.stack.depth) :
    Reaches h limited start c ↔ Reaches h free start c ∧ Reaches h free c a := by
  have hdepth := (ha.of_limited hs hstart).2
  constructor
  · intro hc
    refine ⟨(hc.of_limited hs hstart).1, ?_⟩
    rcases Relation.ReflTransGen.total_of_right_unique next_rightUnique hc ha with hca | hac
    · exact (Reaches.of_limited hs (hc.of_limited hs hstart).2 hca).1
    · rw [eq_of_reaches_limited hs hdepth hab hb hac]
  · rintro ⟨hc, hca⟩
    rcases hc.limited_or hs hstart with hlimited | ⟨a', b', ha', hab', hb', hbc⟩
    · exact hlimited
    · -- a second step above the limit would be the first one, and come before it as well
      have hsame : a' = a := by
        rcases Relation.ReflTransGen.total_of_right_unique next_rightUnique ha ha' with haa | haa
        · exact eq_of_reaches_limited hs hdepth hab hb haa
        · exact (eq_of_reaches_limited hs (ha'.of_limited hs hstart).2 hab' hb' haa).symm
      have hafter := Reaches.totalSteps_le (hbc.trans hca)
      rw [hab'.totalSteps_eq, hsame] at hafter
      omega

/-- A limited run counts no depth above its limit. -/
theorem Reaches.maxStackDepth_le (hstart : start.1.stack.depth ≤ L)
    (hmax : start.1.counters.maxStackDepth ≤ L) (hb : Reaches h limited start b) :
    b.1.counters.maxStackDepth ≤ L := by
  induction hb with
  | refl => exact hmax
  | @tail b c hb hbc ih =>
    have hc := (Reaches.of_limited hs hstart (hb.tail hbc)).2
    obtain ⟨w, -, hm⟩ := hbc.move
    rcases hm.deepens with ⟨-, hsame⟩ | ⟨frame, source, hpush, -⟩
    · rw [hsame]
      exact ih
    · rw [hpush] at hc ⊢
      exact Nat.max_le.2 ⟨ih, hc⟩

end runs

/-- **Where a run first exceeds a limit:** the state before, and the one with the frame too many, for
which nothing but that frame was put on the stack. -/
structure FirstExcess (h : Host) (free : Settings) (L : Nat) (start a b : State × World) : Prop where
  reached : Reaches h free start a
  within : ∀ c, Reaches h free start c → Reaches h free c a → c.1.stack.depth ≤ L
  next : Next h free a b
  push : ∃ frame source, b.1 = a.1.counted.enter frame source
  described : Described a.2 b.2
  depth : b.1.stack.depth = L + 1
  maxStackDepth : b.1.counters.maxStackDepth = L + 1

/-- **A run that is too deep somewhere first exceeds its limit,** and there the limited run ends. -/
theorem exists_firstExcess {limited free : Settings} {L : Nat} (hs : limited.Limits free L)
    {node : Value} {w : World} (hc : Reaches h free (.start node, w) c) (hdepth : L < c.1.stack.depth) :
    ∃ a b, FirstExcess h free L (.start node, w) a b ∧ Reaches h free b c ∧
      (∀ d, Reaches h limited (.start node, w) d ↔
        Reaches h free (.start node, w) d ∧ Reaches h free d a) ∧
      ∃ fuel, drive h limited fuel (.start node) w =
        .ok (limited.overflow (L + 1), b.1.cleared) b.2 := by
  have hstart : (State.start node).stack.depth ≤ L := Nat.zero_le L
  have hmax : (State.start node).counters.maxStackDepth ≤ L := Nat.zero_le L
  rcases hc.limited_or hs hstart with hlimited | ⟨a, b, ha, hab, hb, hbc⟩
  · have := (hlimited.of_limited hs hstart).2
    omega
  · obtain ⟨hreached, hle⟩ := ha.of_limited hs hstart
    have hstates := fun d => reaches_limited_iff_of_lt_depth (c := d) hs hstart ha hab hb
    obtain ⟨w', hdescribed, hm⟩ := hab.move
    rcases hm.deepens with ⟨hsame, -⟩ | ⟨frame, source, hpush, hworld⟩
    · exact absurd (Nat.lt_of_lt_of_le hb hsame) (Nat.not_lt.2 hle)
    · have hdeep : b.1.stack.depth = L + 1 := by
        have hone : b.1.stack.depth = a.1.stack.depth + 1 := by rw [hpush]; rfl
        omega
      have hcount : b.1.counters.maxStackDepth = L + 1 := by
        have hbefore := ha.maxStackDepth_le hs hstart hmax
        have hone : b.1.counters.maxStackDepth =
            max a.1.counters.maxStackDepth b.1.stack.depth := by rw [hpush]; rfl
        omega
      have hlast := step_limited_of_lt_depth hs hle hab hb
      rw [hdeep] at hlast
      obtain ⟨fuel, hdrive⟩ := ha.drive_halted hlast
      exact ⟨a, b, ⟨hreached, fun d hd hda => (((hstates d).2 ⟨hd, hda⟩).of_limited hs hstart).2, hab,
        ⟨frame, source, hpush⟩, hworld ▸ hdescribed, hdeep, hcount⟩, hbc, hstates, fuel, hdrive⟩

/-- An interpreter with a limit differs from one without in nothing else. -/
theorem Settings.limits_settingsOf (w : World) (L : Nat) (trace : Value) :
    (Script.settingsOf w (.int L) trace).Limits (Script.settingsOf w .none trace) L :=
  ⟨rfl, rfl, rfl⟩

end Machine

/-! ### The wording of a limit -/

/-- A number of few binary digits is below a bound that has more. -/
theorem Datum.lt_of_log2_lt {n k b : Nat} (hn : n.log2 < k) (hk : Nat.pow 2 k ≤ b) : n < b := by
  by_cases hzero : n = 0
  · rw [hzero]
    exact Nat.lt_of_lt_of_le (Nat.two_pow_pos k) hk
  · exact Nat.lt_of_lt_of_le ((Nat.log2_lt hzero).1 hn) hk

/-- A whole number can be written if it has few enough digits. -/
theorem Datum.writable_iff {i : Int} :
    writable i = true ↔ i.natAbs < Nat.pow 10 Numeral.digitLimit := by
  rw [writable, Bool.or_eq_true, decide_eq_true_iff, decide_eq_true_iff]
  exact or_iff_right_of_imp fun hlog => lt_of_log2_lt hlog (by decide +kernel)

namespace World

variable (w : World) {L : Nat}

theorem str?_int (i : Int) : w.str? (.int i) = Datum.intText? i := by
  simp only [str?, spellOut, spellWith, Datum.str?, Datum.repr?]

theorem str?_of_lt (hL : L < Nat.pow 10 Numeral.digitLimit) : w.str? (.int L) = .ok L.repr := by
  rw [str?_int, Datum.intText?, if_pos (Datum.writable_iff (i := L).2 hL)]
  rfl

theorem str?_of_le (hL : Nat.pow 10 Numeral.digitLimit ≤ L) :
    w.str? (.int L) = .error .tooManyDigits := by
  rw [str?_int, Datum.intText?, if_neg (mt (Datum.writable_iff (i := L)).1 (Nat.not_lt.2 hL))]

end World

/-- **What a limit on the stack does.**  A run that is never deeper than the limit takes the same
steps and gives the same report in the same world, or none, under this limit, under none, and under
any higher one.  Any other run goes through the same states up to the one in which a frame too many
is put on the stack.  There it ends, whatever boundaries there are, in the world as it then is: the
frames are dropped, and the report is that the stack was one deeper than the limit.  Only a limit of
more digits than are ever written cannot be reported, and is complained about instead. -/
theorem runReport_limited (h : Host) (w₀ : World) (trace : Value) (L : Nat) {node : Value}
    (hnode : node.isNode = true) (w : World) :
    let free := Script.settingsOf w₀ .none trace
    let limited (L : Nat) := Script.settingsOf w₀ (.int L) trace
    (∀ c, w.ticked.describe? node = .error c → ∀ fuel,
      runReport h fuel (limited L) node w = runReport h fuel free node w) ∧
    ∀ description, w.ticked.describe? node = .ok description →
      let start : State × World := (.start node, w.opened description)
      ((∀ b, Reaches h free start b → b.1.stack.depth ≤ L) →
        ∀ L', L ≤ L' → (∀ b, Reaches h (limited L') start b ↔ Reaches h free start b) ∧
          ∀ fuel, runReport h fuel (limited L') node w = runReport h fuel free node w) ∧
      ∀ c, Reaches h free start c → L < c.1.stack.depth →
        ∃ a b, FirstExcess h free L start a b ∧ Reaches h free b c ∧
          (∀ d, Reaches h (limited L) start d ↔ Reaches h free start d ∧ Reaches h free d a) ∧
          (∃ fuel e s, drive h (limited L) fuel start.1 start.2 = .ok (e, s) b.2 ∧
            s.stack = .empty) ∧
          (L < Nat.pow 10 Numeral.digitLimit → ∃ fuel r,
            runReport h fuel (limited L) node w =
              .ok r (b.2.closed (closing r.counters r.outcome)) ∧
            r.outcome = .aborted (.overflow (.int L) L.repr (L + 1)) ∧ r.failure? = none ∧
            r.counters = { b.1.counters with
              discardedContinuations := a.1.counters.discardedContinuations + (L + 1) }) ∧
          (Nat.pow 10 Numeral.digitLimit ≤ L →
            Raises h (limited L) node w Complaint.tooManyDigits.fault b.2) := by
  intro free limited
  have hs : ∀ L, (limited L).Limits free L := fun L => Settings.limits_settingsOf w₀ L trace
  refine ⟨fun c hc fuel => ?_, fun description hd => ⟨fun hdepth L' hle => ⟨fun b => ?_, fun fuel => ?_⟩,
    fun c hc hdepth => ?_⟩⟩
  · rw [runReport_of_undescribed hnode hc, runReport_of_undescribed hnode hc]
  · exact reaches_limited_iff (hs L') fun b hb => Nat.le_trans (hdepth b hb) hle
  · rw [runReport_of_described hnode hd, runReport_of_described hnode hd]
    exact Eff.bind_eq_of_eq
      (drive_limited_eq (hs L') (fun b hb => Nat.le_trans (hdepth b hb) hle) fuel)
  · obtain ⟨a, b, hexcess, hbc, hstates, fuel, hdrive⟩ := exists_firstExcess (hs L) hc hdepth
    obtain ⟨frame, source, hpush⟩ := hexcess.push
    refine ⟨a, b, hexcess, hbc, hstates, ⟨fuel, _, _, hdrive, rfl⟩, fun hL => ?_, fun hL => ?_⟩
    · have hover : (limited L).overflow (L + 1) =
          Outcome.ending (.aborted (.overflow (.int L) L.repr (L + 1))) := by
        simp only [limited, Settings.overflow, Script.settingsOf, World.str?_of_lt w₀ hL]
        rfl
      rw [hover] at hdrive
      refine ⟨fuel, ⟨.aborted (.overflow (.int L) L.repr (L + 1)), b.1.cleared.counters,
        w.ticked.journal.clock, b.2.ticked.journal.clock⟩, ?_, rfl, rfl, ?_⟩
      · rw [runReport_of_described hnode hd, Eff.bind_of_ok hdrive, concluded_of_outcome]
      · have hdropped : b.1.counters.discardedContinuations =
            a.1.counters.discardedContinuations := by rw [hpush]; rfl
        rw [← hdropped, ← hexcess.depth]
        rfl
    · have hover : (limited L).overflow (L + 1) = .interrupted Complaint.tooManyDigits.fault := by
        simp only [limited, Settings.overflow, Script.settingsOf, World.str?_of_le w₀ hL]
      rw [hover] at hdrive
      exact (raises_iff_runs hnode hd).2 ⟨_, fuel, _, hdrive, rfl⟩

/-- Two frames are one too many for a limit of one, although the lower one is a boundary. -/
theorem runReport_limited_attempt :
    let w := Script.SessionInput.recorded
    let node := Graph.attempt .unit
    let start : State × World :=
      (.start node, w.opened "Recover(FlatMap, EffectNode.attempt.<locals>.<lambda>)")
    (∃ c, Reaches .spent (Script.settingsOf w .none (.bool false)) start c ∧ 1 < c.1.stack.depth) ∧
      ∃ fuel r w', runReport .spent fuel (Script.settingsOf w (.int 1) (.bool false)) node w =
          .ok r w' ∧
        r.outcome = .aborted (.overflow (.int 1) "1" 2) ∧ r.counters.maxStackDepth = 2 := by
  intro w node start
  have hp : (Script.settingsOf w .none (.bool false)).Plain := Settings.plain_settingsOf w
  have hd : Script.SessionInput.recorded.ticked.describe? node =
      .ok "Recover(FlatMap, EffectNode.attempt.<locals>.<lambda>)" := rfl
  have hnode : node.isNode = true := rfl
  have hdeep := ((Relation.ReflTransGen.single (next_region (h := .spent) hp 0
    (.sequenced .unit .wrapOk) (.ofCallback .wrapErr) .empty .zero start.2)).tail
      (next_sequence hp 0 .unit (.ofCallback .wrapOk) _ _ _))
  obtain ⟨a, b, hexcess, -, -, -, hreport, -⟩ :=
    ((runReport_limited .spent w (.bool false) 1 hnode w).2 _ hd).2 _ hdeep
      (Nat.lt_succ_self 1)
  obtain ⟨fuel, r, hrun, houtcome, -, hcounters⟩ := hreport (by decide +kernel)
  refine ⟨⟨_, hdeep, Nat.lt_succ_self 1⟩, fuel, r, _, hrun, houtcome, ?_⟩
  rw [hcounters]
  exact hexcess.maxStackDepth

end EffectGraph
