import EffectGraph.Proofs.Tails
import EffectGraph.Proofs.Ledger

/-!
# Loops run in constant space

Each part of a loop is run above one frame, which is gone before the next part is run.  So the depth of
a loop is one more than that of its deepest part, however many parts there are (`Goes.maxStackDepth`,
`Unrolls.maxStackDepth`).  A limit that a run does not exceed changes nothing about it
(`runs_limited_iff`), so this is so with a limit as well.

The main result, `constant_space`, says this of the loops of the library, whose runs are those of their
parts alone, and adds what holds in tail positions in general, whether the run ends or not.
-/

namespace EffectGraph

open Machine

/-! ### Runs within a limit -/

namespace Machine

variable {h : Host} {settings : Settings} {s s' : State} {e : Ending} {w w' : World}

theorem maxStackDepth_of_mishap {mis : Mishap} (hs : mishap s mis w = .ok (.halted e s') w') :
    s'.counters.maxStackDepth = s.counters.maxStackDepth := by
  cases hfault : mis.1.kind.isFailure with
  | false =>
    rw [mishap_of_interrupt hfault] at hs
    cases hs
    rfl
  | true =>
    rcases hunwind : s.stack.unwind with ⟨dropped, _ | ⟨g, rest⟩⟩
    · rw [mishap_of_no_landing hfault hunwind] at hs
      cases hs
      rfl
    · rw [mishap_of_landing hfault hunwind] at hs
      obtain ⟨r, w₁, -, hrest⟩ := Eff.exists_of_bind_ok hs
      cases r <;> cases hrest
      rfl

/-- **The last step of a run counts no depth,** if there is no limit. -/
theorem maxStackDepth_of_halted (hp : settings.Plain)
    (hs : step h settings s w = .ok (.halted e s') w') :
    s'.counters.maxStackDepth = s.counters.maxStackDepth := by
  obtain ⟨current, stack, c⟩ := s
  cases hk : current.isKnown with
  | false =>
    rw [step_unknown hp hk] at hs
    cases hs
    rfl
  | true =>
    cases current with
    | node i n =>
      cases n with
      | done v =>
        rcases hpop : stack.pop? with _ | ⟨f | g, rest⟩
        · rw [Stack.eq_empty_of_pop? hpop, step_finished hp] at hs
          cases hs
          rfl
        · rw [Stack.eq_push_of_pop? hpop, step_continuation hp] at hs
          obtain ⟨answer, w₁, -, hrest⟩ := Eff.exists_of_bind_ok hs
          cases answer with
          | ok node => cases hrest
          | error mis => exact maxStackDepth_of_mishap (s := ⟨_, rest, c.invoked⟩) hrest
        · rw [Stack.eq_push_of_pop? hpop, next_boundary hp i v g rest c w] at hs
          cases hs
      | delay thunk label =>
        rw [step_action hp] at hs
        obtain ⟨answer, w₁, -, hrest⟩ := Eff.exists_of_bind_ok hs
        cases answer with
        | ok v => cases hrest
        | error mis => exact maxStackDepth_of_mishap (s := ⟨_, stack, c.stepped⟩) hrest
      | flatMap source f =>
        rw [next_sequence hp i source f stack c w] at hs
        cases hs
      | recover source g =>
        rw [next_region hp i source g stack c w] at hs
        cases hs
      | foreign variant => cases hk
    | _ => cases hk

/-- The depth that is counted never falls. -/
theorem Reaches.maxStackDepth_mono {a b : State × World} (hab : Reaches h settings a b) :
    a.1.counters.maxStackDepth ≤ b.1.counters.maxStackDepth := by
  induction hab with
  | refl => exact Nat.le_refl _
  | @tail b c _ hbc ih =>
    obtain ⟨w, -, hm⟩ := hbc.move
    rcases hm.deepens with ⟨-, hsame⟩ | ⟨frame, source, hpush, -⟩
    · have hsame : c.1.counters.maxStackDepth = b.1.counters.maxStackDepth := hsame
      omega
    · have hmax : c.1.counters.maxStackDepth = max b.1.counters.maxStackDepth c.1.stack.depth := by
        rw [hpush]
        rfl
      omega

/-- No state of a run that ends is deeper than the depth that it counts. -/
theorem Runs.depth_le (hp : settings.Plain) {node : Value} {c : Counters} {b : State × World}
    (hrun : Runs h settings node w e c w') (hb : Reaches h settings (.start node, w) b) :
    b.1.stack.depth ≤ c.maxStackDepth := by
  obtain ⟨fuel, s, hdrive, rfl⟩ := hrun
  obtain ⟨fuel', -, hrest⟩ := hb.drive_rest hdrive
  obtain ⟨last, hlast, hhalts⟩ := exists_reaches_of_drive hrest
  obtain ⟨past, hpast⟩ := reaches_iff_history.1 hb
  have hdepth : b.1.stack.depth ≤ b.1.counters.maxStackDepth :=
    hpast.isGreatest_depth.2 ⟨b, List.mem_cons_self, rfl⟩
  have hmono : b.1.counters.maxStackDepth ≤ last.1.counters.maxStackDepth := hlast.maxStackDepth_mono
  have hend : s.counters.maxStackDepth = last.1.counters.maxStackDepth :=
    maxStackDepth_of_halted hp hhalts
  omega

section limited

variable {limited free : Settings} {L : Nat} (hs : limited.Limits free L) {node : Value} {c : Counters}
include hs

/-- A run that never exceeds a limit is the same with the limit. -/
theorem runs_limited_iff_of_depth
    (hdepth : ∀ b, Reaches h free (.start node, w) b → b.1.stack.depth ≤ L) :
    Runs h limited node w e c w' ↔ Runs h free node w e c w' := by
  have hsame := fun fuel => drive_limited_eq hs hdepth fuel
  simp only [Runs, hsame]

/-- **A limit changes nothing about a run that counts no depth above it.** -/
theorem runs_limited_iff (hp : free.Plain) (hc : c.maxStackDepth ≤ L) :
    Runs h limited node w e c w' ↔ Runs h free node w e c w' := by
  by_cases hdepth : ∀ b, Reaches h free (.start node, w) b → b.1.stack.depth ≤ L
  · exact runs_limited_iff_of_depth hs hdepth
  · obtain ⟨b, hb⟩ := Classical.not_forall.1 hdepth
    obtain ⟨hb, hdeep⟩ := Classical.not_imp.1 hb
    have hdeep : L < b.1.stack.depth := Nat.lt_of_not_le hdeep
    constructor
    · rintro ⟨fuel, s, hdrive, rfl⟩
      obtain ⟨a, b', hexcess, -, -, fuel', hdrive'⟩ := exists_firstExcess hs hb hdeep
      obtain ⟨hsame, -⟩ := drive_unique hdrive hdrive'
      have hmax : s.counters.maxStackDepth = L + 1 := by
        rw [(Prod.mk.inj hsame).2]
        exact hexcess.maxStackDepth
      omega
    · intro hrun
      have := hrun.depth_le hp hb
      omega

end limited

/-- The settings without their limit. -/
def Settings.free (settings : Settings) : Settings := { settings with bound := .unlimited }

theorem Settings.limits_free {L : Nat} (hb : settings.bound = .atMost L) :
    settings.Limits settings.free L := ⟨hb, rfl, rfl⟩

/-- **Nothing is traced, and a limit, if there is one, admits a depth.** -/
structure Settings.Admits (settings : Settings) (depth : Nat) : Prop where
  untraced : ∀ w, World.isTruthy w settings.trace = false
  bound : settings.bound = .unlimited ∨ ∃ L : Nat, settings.bound = .atMost L ∧ depth ≤ L

namespace Settings.Admits

variable {depth : Nat} (ha : settings.Admits depth)
include ha

theorem plain : settings.free.Plain := ⟨rfl, ha.untraced⟩

/-- Settings without a limit are free. -/
theorem free_eq (hb : settings.bound = .unlimited) : settings.free = settings := by
  obtain ⟨bound, limit, limitText, trace⟩ := settings
  cases hb
  rfl

/-- A run that is admitted is a run without a limit. -/
theorem runs_iff {node : Value} {c : Counters} (hc : c.maxStackDepth ≤ depth) :
    Runs h settings node w e c w' ↔ Runs h settings.free node w e c w' := by
  rcases ha.bound with hb | ⟨L, hb, hle⟩
  · rw [ha.free_eq hb]
  · exact runs_limited_iff (Settings.limits_free hb) ha.plain (Nat.le_trans hc hle)

/-- So are the states of a run. -/
theorem reaches {node : Value} {b : State × World} (hr : Reaches h settings (.start node, w) b) :
    Reaches h settings.free (.start node, w) b := by
  rcases ha.bound with hb | ⟨L, hb, -⟩
  · rwa [ha.free_eq hb]
  · exact (Reaches.of_limited (Settings.limits_free hb) (Nat.zero_le L) hr).1

end Settings.Admits

end Machine

theorem Verdict.maxStackDepth_total (verdict : Verdict) (k : Counters) :
    (verdict.total k).maxStackDepth = k.maxStackDepth := by
  cases verdict <;> rfl

theorem le_deepest {p : Part} {parts : List Part} (hp : p ∈ parts) :
    p.cost.maxStackDepth ≤ deepest parts := by
  induction parts with
  | nil => cases hp
  | cons q parts ih =>
    rw [deepest_cons]
    rcases List.mem_cons.1 hp with rfl | hp
    · exact Nat.le_max_left _ _
    · exact Nat.le_trans (ih hp) (Nat.le_max_right _ _)

/-! ### The depth of a loop -/

namespace Loop

variable {h : Host} {L : Loop h} {r : Round L.State} {w w' : World} {parts : List Part}
  {verdict : Verdict} {k : Counters}

/-- Each part of a loop is evaluated from the world that it is said to be run from. -/
theorem Goes.exists_evaluates (hr : L.Goes r w parts verdict k w') :
    ∀ p ∈ parts, ∃ verdict w', Evaluates h p.node p.world verdict p.cost w' := by
  induction hr with
  | ended | finish => exact List.forall_mem_nil _
  | stopped hpart _ => exact List.forall_mem_singleton.2 ⟨_, _, hpart⟩
  | raised hpart _ => exact List.forall_mem_singleton.2 ⟨_, _, hpart⟩
  | round hpart _ _ ih => exact List.forall_mem_cons.2 ⟨⟨_, _, hpart⟩, ih⟩

/-- **The depth of the rounds is one more than that of the deepest part.**  In each round the part is
run above one frame, and the rounds that follow are run when it is gone. -/
theorem Goes.maxStackDepth (hr : L.Goes r w parts verdict k w') :
    max 1 k.maxStackDepth = 1 + deepest parts := by
  induction hr with
  | ended => rfl
  | finish => rfl
  | stopped _ _ =>
    simp only [deepest_cons, Counters.framed, deepest_nil]
    omega
  | raised _ _ =>
    simp only [deepest_cons, Counters.chained, Counters.zero, deepest_nil]
    omega
  | round _ _ _ ih =>
    simp only [deepest_cons, Counters.chained]
    omega

variable {j : Nat}

theorem Unrolls.exists_evaluates (hu : L.Unrolls j w parts verdict k w') :
    ∀ p ∈ parts, ∃ verdict w', Evaluates h p.node p.world verdict p.cost w' := by
  cases hu with
  | raised _ => exact List.forall_mem_nil _
  | started _ hrest => exact hrest.exists_evaluates

/-- So is the depth of a whole loop. -/
theorem Unrolls.maxStackDepth (hu : L.Unrolls j w parts verdict k w') :
    k.maxStackDepth = 1 + deepest parts := by
  cases hu with
  | raised _ => rfl
  | started _ hrest =>
    have hrounds := hrest.maxStackDepth
    simp only [Counters.chained, Counters.zero]
    omega

end Loop

/-! ### The loops of the library -/

/-- **The loop that a node of the library is.** -/
inductive Repeats (h : Host) : Value → Loop h → Prop where
  | doWhile {body condition node} (hn : Graph.doWhile body condition = .ok node) :
      Repeats h node (.doWhile h body condition)
  | whileLoop {condition body node} (hn : Graph.whileLoop condition body = .ok node) :
      Repeats h node (.whileLoop h condition body)
  | forever {part node} (hn : Graph.forever part = .ok node) : Repeats h node (.forever h part)
  | fold {elements initial step node} (hn : Graph.fold elements initial step = .ok node) :
      Repeats h node (.fold h elements initial (.apply step))
  | replicate {count part node n} (hn : Graph.replicate count part = .ok node)
      (hcount : Graph.requireCount "replicate_m" count = .ok n) :
      Repeats h node (.replicate h n part)
  | generate {f args keywords} (hf : h.Generates f args keywords) :
      Repeats h (Graph.generate f args keywords) (.generate hf)
  /-- Which of several nodes of the same form it is does not matter. -/
  | identified {L i j} (i' j' : Nat) (hL : Repeats h (L.node i j) L) : Repeats h (L.node i' j') L

/-- Such a node has the form of the node of its loop. -/
theorem Repeats.exists_node {h : Host} {node : Value} {L : Loop h} (hL : Repeats h node L) :
    ∃ i j, node = L.node i j := by
  cases hL with
  | doWhile hn =>
    obtain ⟨-, hrest⟩ := Graph.isNode_of_requireNode_bind hn
    cases hrest
    exact ⟨0, 0, rfl⟩
  | whileLoop hn =>
    obtain ⟨-, hrest⟩ := Graph.isNode_of_requireNode_bind hn
    obtain ⟨-, hrest⟩ := Graph.isNode_of_requireNode_bind hrest
    cases hrest
    exact ⟨0, 0, rfl⟩
  | forever hn =>
    obtain ⟨-, hrest⟩ := Graph.isNode_of_requireNode_bind hn
    cases hrest
    exact ⟨0, 0, rfl⟩
  | fold hn =>
    obtain ⟨-, rfl⟩ := Graph.of_ite_ok hn
    exact ⟨0, 0, rfl⟩
  | replicate hn hcount =>
    obtain ⟨-, hrest⟩ := Graph.isNode_of_requireNode_bind hn
    rw [hcount] at hrest
    cases hrest
    exact ⟨0, 0, rfl⟩
  | generate hf => exact ⟨0, 0, rfl⟩
  | identified i' j' _ => exact ⟨i', j', rfl⟩

/-- **Loops run in constant space.**  The depth of a run of a loop that ends, in whatever way, is one
more than that of the deepest part, each part being run alone from the world that the loop runs it
from; so it does not depend on the number of rounds.  And at any moment of any run, whether it ends or
not, a chain of nodes in tail position has at most one frame of its own, with nothing above it but what
a run of the current source alone has. -/
theorem constant_space (h : Host) (settings : Settings) :
    (∀ node L, Repeats h node L → ∀ w e c w', settings.Admits c.maxStackDepth →
      Runs h settings node w e c w' →
      ∃ j parts verdict k, L.Unrolls j w parts verdict k w' ∧ verdict.ending w' k = e ∧
        (∀ p ∈ parts, ∃ e c w', Runs h settings p.node p.world e c w' ∧
          c.maxStackDepth = p.cost.maxStackDepth) ∧
        c.maxStackDepth = 1 + deepest parts) ∧
    ∀ node w b, settings.Admits b.1.stack.depth → Reaches h settings (.start node, w) b →
      ∃ parts last w₁, Spine h settings.free node w parts last w₁ ∧
        Stands h settings.free parts last w₁ b := by
  constructor
  · intro node L hL w e c w' hadmits hrun
    obtain ⟨i, j, rfl⟩ := hL.exists_node
    rw [hadmits.runs_iff (Nat.le_refl _)] at hrun
    obtain ⟨verdict, k, he, hending, rfl⟩ := (runs_iff hadmits.plain).1 hrun
    obtain ⟨parts, hu⟩ := Loop.evaluates_node_iff.1 he
    have hdepth : (verdict.total k).maxStackDepth = 1 + deepest parts := by
      rw [verdict.maxStackDepth_total, hu.maxStackDepth]
    refine ⟨j, parts, verdict, k, hu, hending, fun p hp => ?_, hdepth⟩
    obtain ⟨v, u, hpart⟩ := hu.exists_evaluates p hp
    have hle : (v.total p.cost).maxStackDepth ≤ (verdict.total k).maxStackDepth := by
      rw [v.maxStackDepth_total, hdepth]
      exact Nat.le_trans (le_deepest hp) (Nat.le_add_left _ _)
    exact ⟨_, _, _, (hadmits.runs_iff hle).2 (hpart.runs hadmits.plain), v.maxStackDepth_total _⟩
  · intro node w b hadmits hb
    exact reaches_stands hadmits.plain (hadmits.reaches hb)

/-- A node that is two frames deep, run twice, makes a loop that is three frames deep. -/
theorem constant_space_replicate :
    let w := Script.SessionInput.recorded
    let settings := Script.settingsOf w .none (.bool false)
    let part := Graph.attempt .unit
    ∃ node e c w' parts b, Graph.replicate (.int 2) part = .ok node ∧
      Runs .spent settings node w e c w' ∧ c.maxStackDepth = 3 ∧
      c.maxStackDepth = 1 + deepest parts ∧
      b.1.stack.depth = 1 ∧ ∃ parts last w₁, Stands .spent settings.free parts last w₁ b := by
  intro w settings part
  have hp : settings.Plain := Settings.plain_settingsOf w
  have hadmits : ∀ depth, settings.Admits depth := fun _ => ⟨hp.untraced, .inl rfl⟩
  have hwrap : ∀ w, applied .spent (.ofCallback .wrapOk) .none w =
      .ok (.ok (.done (.success .none))) w := fun w => rfl
  have hpart : ∀ w, Evaluates .spent part w (.value (.success .none))
      ((Counters.zero.chained .zero).framed.stepped) w :=
    fun w => .region (.sequence .done (hwrap w) .done)
  let L := Loop.replicate .spent 2 part
  have hloop := (Loop.evaluates_node_iff (i := 0)).2 ⟨_, Loop.Unrolls.started (L := L) (j := 0) (w := w) rfl
    (.round (hpart _) rfl (.round (hpart _) rfl .finish))⟩
  have hrun := hloop.runs hp
  have hnode : Graph.replicate (.int 2) part = .ok (L.node 0 0) := rfl
  have hL : Repeats .spent (L.node 0 0) L := .replicate hnode rfl
  obtain ⟨hdepth, hstates⟩ := constant_space .spent settings
  obtain ⟨j, parts, verdict, k, -, -, -, hc⟩ := hdepth _ L hL w _ _ _ (hadmits _) hrun
  obtain ⟨parts', last, w₁, -, hb⟩ := hstates _ w _ (hadmits _)
    (.single (next_sequence hp 0 .unit (L.starter 0) .empty .zero w))
  exact ⟨_, _, _, _, parts, _, hnode, hrun, rfl, hc, rfl, parts', last, w₁, hb⟩

end EffectGraph
