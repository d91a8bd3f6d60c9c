import EffectGraph.Proofs.Agreement
import EffectGraph.Proofs.Space

/-!
# Folding is a plain loop

`PlainFold` is the loop that a fold stands for, statement by statement: open the iterator; pull an
element; call the step; run the node that it gives; pull again.  `PlainFold.Next` leads from one
statement to the next one, each in the world that the one before it has left, and `PlainFold.Ends` says
how the loop is over.  Nothing of the machine is in it: no continuation, no frame and no round.

The machine goes through the same statements and through nothing else (`fold_loops`).  A run reports
what the plain loop ends with, in its world, if the texts are accepted that a report needs; the node of
each step is run where the loop runs it; and every state of a run is one of the run of such a node
alone, above one frame, or lies between two statements.  So a pull is made only when the node of the
step before is done, and nothing is pulled or called after the end.  For any description of the ends of a
node, `Reported` says what a run of the node reports and raises.
-/

namespace EffectGraph

open Machine Relation

/-! ### The plain loop -/

/-- **The loop that a fold stands for.**  Faults of its first round are blamed on `starter`, those of a
later one on the continuation that goes on with the iterator. -/
structure PlainFold where
  elements : Value
  initial : Value
  step : Value
  starter : Value

namespace PlainFold

/-- The statement that is next.  The worker is the callable that is blamed for what is raised. -/
inductive Point where
  | opening
  | pulling (worker iterator accumulator : Value)
  | calling (worker iterator accumulator element : Value)
  | running (iterator node : Value)

/-- How a loop is over: with a value, with a failure that was raised in a place, because something that
is no node of a known variant was to be run, or with an interrupt. -/
inductive Exit where
  | gives (v : Value)
  | fails (fault : Fault Value) (place : Value)
  | stuck (typeName : String)
  | passes (fault : Fault Value)

/-- A fault is a failure or an interrupt. -/
def Exit.raised (fault : Fault Value) (place : Value) : Exit :=
  if fault.kind.isFailure then fails fault place else passes fault

/-- What goes on with an iterator after the first round. -/
def later (F : PlainFold) (iterator : Value) : Value := .ofCallback (.foldNext iterator (.apply F.step))

end PlainFold

/-- How a verdict ends a loop, however many continuations wait. -/
def Verdict.exit : Verdict → PlainFold.Exit
  | value v => .gives v
  | failure fault label _ => .fails fault label
  | unknown typeName _ => .stuck typeName
  | interrupt fault => .passes fault

@[simp]
theorem Verdict.exit_outward (verdict : Verdict) : verdict.outward.exit = verdict.exit := by
  cases verdict <;> rfl

@[simp]
theorem Verdict.exit_ofMishap (fault : Fault Value) (place : Value) :
    (Verdict.ofMishap (fault, place)).exit = .raised fault place := by
  unfold Verdict.ofMishap PlainFold.Exit.raised
  cases hfault : fault.kind.isFailure <;> simp [Verdict.exit]

namespace PlainFold

variable (h : Host) (F : PlainFold)

/-- **One statement of the loop.** -/
inductive Next : Point × World → Point × World → Prop where
  | opens {iterator w w'} (hopen : h.openIterator F.elements w = .ok iterator w') :
      Next (.opening, w) (.pulling F.starter iterator F.initial, w')
  | pulls {worker iterator accumulator element w w'}
      (hpull : h.pull iterator w = .ok (some element) w') :
      Next (.pulling worker iterator accumulator, w) (.calling worker iterator accumulator element, w')
  | calls {worker iterator accumulator element node w w'}
      (hcall : h.call F.step [accumulator, element] [] w = .ok node w') :
      Next (.calling worker iterator accumulator element, w) (.running iterator node, w')
  /-- The value of the node is the new accumulator. -/
  | runs {iterator node v k w w'} (hnode : Evaluates h node w (.value v) k w') :
      Next (.running iterator node, w) (.pulling (F.later iterator) iterator v, w')

/-- **A statement that ends the loop.** -/
inductive Ends : Point × World → Exit → World → Prop where
  | finishes {worker iterator accumulator w w'} (hpull : h.pull iterator w = .ok none w') :
      Ends (.pulling worker iterator accumulator, w) (.gives accumulator) w'
  | openRaises {fault w w'} (hopen : h.openIterator F.elements w = .error (.raised fault) w') :
      Ends (.opening, w) (.raised fault (w'.callableName F.starter)) w'
  | pullRaises {worker iterator accumulator fault w w'}
      (hpull : h.pull iterator w = .error (.raised fault) w') :
      Ends (.pulling worker iterator accumulator, w) (.raised fault (w'.callableName worker)) w'
  | callRaises {worker iterator accumulator element fault w w'}
      (hcall : h.call F.step [accumulator, element] [] w = .error (.raised fault) w') :
      Ends (.calling worker iterator accumulator element, w) (.raised fault (w'.callableName worker)) w'
  | nodeStops {iterator node verdict k w w'} (hnode : Evaluates h node w verdict k w')
      (hstop : verdict.isValue = false) : Ends (.running iterator node, w) verdict.exit w'

/-- The loop comes to a point. -/
def Reached (w : World) (p : Point) (u : World) : Prop := ReflTransGen (Next h F) (.opening, w) (p, u)

/-- **The loop comes to an end.** -/
def Completes (w : World) (exit : Exit) (w' : World) : Prop :=
  ∃ p u, Reached h F w p u ∧ Ends h F (p, u) exit w'

end PlainFold

/-! ### The rounds that a loop comes to -/

namespace Loop

/-- The loop comes to a round, in a world. -/
inductive Comes {h : Host} (L : Loop h) (w : World) : Round L.State → World → Prop where
  | first {r u} (hstart : L.start w = .ok r u) : Comes L w r u
  | next {part s v k r u u₁ u₂} (hr : Comes L w (.run part s) u)
      (hpart : Evaluates h part u (.value v) k u₁) (hnext : L.next s v u₁ = .ok r u₂) : Comes L w r u₂

variable {h : Host} {L : Loop h} {w u w' : World} {r : Round L.State}

/-- What a round that the loop comes to leads to is what the whole loop leads to. -/
theorem Comes.unrolls (hr : L.Comes w r u) {parts : List Part} {verdict : Verdict} {k : Counters}
    (hrest : L.Goes r u parts verdict k w') (j : Nat) :
    ∃ parts k, L.Unrolls j w parts verdict k w' := by
  induction hr generalizing parts k with
  | first hstart => exact ⟨parts, _, .started hstart hrest⟩
  | next _ hpart hnext ih => exact ih (.round hpart hnext hrest)

section machine

variable {settings : Settings} (hp : settings.Plain)
include hp

/-- **The machine comes to the node of each round,** whatever is on the stack. -/
theorem Comes.reaches_on (hr : L.Comes w r u) (i j : Nat) (B : Stack) (c : Counters) :
    ∃ c', Reaches h settings (⟨L.node i j, B, c⟩, w) (⟨r.node L.onward, B, c'⟩, u) := by
  induction hr with
  | @first r u hstart =>
    have happlied := applied_of_round (invoke_starter j .none) hstart
    exact ⟨_, .tail (.single (next_sequence hp i .unit (L.starter j) B c w))
      (next_continuation hp happlied 1 B _)⟩
  | @next part s v k r u u₁ u₂ _ hpart hnext ih =>
    obtain ⟨c', hreach⟩ := ih
    have happlied := applied_of_round (invoke_onward s v) hnext
    have hpush := next_sequence (h := h) hp 0 part (.ofCallback (L.onward s)) B c' u
    obtain ⟨i', hdone⟩ := hpart.arrives hp _ _ (B.depth_push_le (.continuation _) c')
    exact ⟨_, (hreach.tail hpush).trans (hdone.tail (next_continuation hp happlied i' B _))⟩

/-- Alone, it comes to that node with nothing else on the stack. -/
theorem Comes.reaches (hr : L.Comes w r u) (i j : Nat) :
    ∃ c, Reaches h settings (.start (L.node i j), w) (⟨r.node L.onward, .empty, c⟩, u) :=
  hr.reaches_on hp i j .empty .zero

end machine

end Loop

namespace Machine

variable {h : Host} {settings : Settings} (hp : settings.Plain)
include hp

/-- A node that the machine brings to a value alone evaluates to it. -/
theorem Reaches.evaluates {node v : Value} {i : Nat} {m : Counters} {w w' : World}
    (hr : Reaches h settings (.start node, w) (⟨.node i (.done v), .empty, m⟩, w')) :
    ∃ k, Evaluates h node w (.value v) k w' := by
  obtain ⟨fuel, hdrive⟩ := hr.drive_halted (step_finished hp i v m w')
  obtain ⟨verdict, k, he, hending, -⟩ := (runs_iff hp).1 ⟨fuel, _, hdrive, rfl⟩
  rw [Verdict.ending_eq_finished_iff] at hending
  exact ⟨k, hending ▸ he⟩

/-- A finished node that nothing waits for is the last state of its run. -/
theorem Reaches.eq_of_finished {v : Value} {i : Nat} {c : Counters} {w : World} {b : State × World}
    (hr : Reaches h settings (⟨.node i (.done v), .empty, c⟩, w) b) :
    b = (⟨.node i (.done v), .empty, c⟩, w) := by
  rcases hr.cases_head with hb | ⟨b', hnext, -⟩
  · exact hb.symm
  · rw [Next, step_finished hp] at hnext
    cases hnext

end Machine

namespace Loop

variable {h : Host} {L : Loop h} {settings : Settings} (hp : settings.Plain) {i j : Nat}
  {w u : World} {parts : List Part} {last : Value}
include hp

/-- **The turns of a loop are its rounds:** a node in tail position is that of the loop or that of a
round. -/
theorem comes_of_spine (hs : Spine h settings (L.node i j) w parts last u) :
    (last = L.node i j ∧ u = w) ∨ ∃ r, last = r.node L.onward ∧ L.Comes w r u := by
  induction hs with
  | here => exact .inl ⟨rfl, rfl⟩
  | turn _ ht ih =>
    rcases ih with ⟨rfl, rfl⟩ | ⟨r, rfl, hr⟩
    · cases ht with
      | hand hsource hf =>
        cases hsource.eq_of_finished hp
        obtain ⟨r, hstart, rfl⟩ := exists_of_applied_node (invoke_starter j _) hf
        exact .inr ⟨r, rfl, .first hstart⟩
    · cases r with
      | run part s =>
        cases ht with
        | hand hsource hf =>
          obtain ⟨k, hpart⟩ := hsource.evaluates hp
          obtain ⟨r, hnext, rfl⟩ := exists_of_applied_node (invoke_onward s _) hf
          exact .inr ⟨r, rfl, .next hr hpart hnext⟩
      | ended | finish _ => cases ht

end Loop

/-! ### The rounds of a fold are made of the statements of the plain loop -/

namespace PlainFold

/-- The fold as a loop in rounds. -/
def rounds (h : Host) (F : PlainFold) : Loop h := .fold h F.elements F.initial (.apply F.step)

/-- **A round of the fold as a point of the plain loop:** the node of a step that is to be run, or the
end with the accumulator.  A fold has no other end. -/
def Heads (h : Host) (F : PlainFold) (w : World) (r : Round (F.rounds h).State) (u : World) : Prop :=
  match r with
  | .ended => False
  | .finish v => Completes h F w (.gives v) u
  | .run node iterator => Reached h F w (.running iterator node) u

/-- **A round is to be begun with a pull:** the first one after the opening, a later one after the node
of the round before. -/
inductive Begins (h : Host) (F : PlainFold) (w : World) : Value → Value → Value → World → Prop where
  | first {iterator u} (hopen : h.openIterator F.elements w = .ok iterator u) :
      Begins h F w F.starter iterator F.initial u
  | later {iterator node accumulator k u u'} (hr : (F.rounds h).Comes w (.run node iterator) u)
      (hnode : Evaluates h node u (.value accumulator) k u') :
      Begins h F w (F.later iterator) iterator accumulator u'

/-- **Where the plain loop stands in the rounds of the fold.** -/
def Stage (h : Host) (F : PlainFold) (w : World) : Point × World → Prop
  | (.opening, u) => u = w
  | (.pulling worker iterator accumulator, u) => Begins h F w worker iterator accumulator u
  | (.calling worker iterator accumulator element, u) =>
    ∃ u₀, Begins h F w worker iterator accumulator u₀ ∧ h.pull iterator u₀ = .ok (some element) u
  | (.running iterator node, u) => (F.rounds h).Comes w (.run node iterator) u

end PlainFold

namespace Loop

variable {h : Host} {step : FoldStep Value} {iterator accumulator element node : Value} {u u₁ u' : World}

/-- A round that was built pulled nothing, or else an element that the step gave a node for. -/
theorem of_foldElement_ok {r : Round Value} (hr : foldElement h step iterator accumulator u = .ok r u') :
    (h.pull iterator u = .ok none u' ∧ r = .finish accumulator) ∨
      ∃ element node u₁, h.pull iterator u = .ok (some element) u₁ ∧
        step.run h accumulator element u₁ = .ok node u' ∧ r = .run node iterator := by
  obtain ⟨pulled, u₁, hpull, hrest⟩ := Eff.exists_of_bind_ok hr
  cases pulled with
  | none =>
    cases hrest
    exact .inl ⟨hpull, rfl⟩
  | some element =>
    obtain ⟨node, u₂, hcall, hrest⟩ := Eff.exists_of_bind_ok hrest
    cases hrest
    exact .inr ⟨element, node, u₁, hpull, hcall, rfl⟩

/-- A round that could not be built failed in the pull, or else in the step. -/
theorem of_foldElement_raised {fault : Fault Value}
    (hr : foldElement h step iterator accumulator u = .error (.raised fault) u') :
    h.pull iterator u = .error (.raised fault) u' ∨
      ∃ element u₁, h.pull iterator u = .ok (some element) u₁ ∧
        step.run h accumulator element u₁ = .error (.raised fault) u' := by
  rcases Eff.of_bind_error hr with hpull | ⟨pulled, u₁, hpull, hrest⟩
  · exact .inl hpull
  · cases pulled with
    | none => cases hrest
    | some element =>
      rcases Eff.of_bind_error hrest with hcall | ⟨node, u₂, -, hrest⟩
      · exact .inr ⟨element, u₁, hpull, hcall⟩
      · cases hrest

theorem foldElement_of_run (hpull : h.pull iterator u = .ok (some element) u₁)
    (hcall : step.run h accumulator element u₁ = .ok node u') :
    foldElement h step iterator accumulator u = .ok (.run node iterator) u' :=
  (Eff.bind_of_ok hpull).trans (Eff.bind_of_ok hcall)

theorem foldElement_of_raised {fault : Fault Value}
    (hpull : h.pull iterator u = .ok (some element) u₁)
    (hcall : step.run h accumulator element u₁ = .error (.raised fault) u') :
    foldElement h step iterator accumulator u = .error (.raised fault) u' :=
  (Eff.bind_of_ok hpull).trans (Eff.bind_of_error hcall)

end Loop

namespace PlainFold

section rounds

variable {h : Host} {F : PlainFold}

variable {w u w' : World} {r : Round (F.rounds h).State} {worker iterator accumulator : Value}

theorem heads_of_pulling (hp : Reached h F w (.pulling worker iterator accumulator) u)
    (hr : Loop.foldElement h (.apply F.step) iterator accumulator u = .ok r w') : Heads h F w r w' := by
  rcases Loop.of_foldElement_ok hr with ⟨hpull, rfl⟩ | ⟨element, node, u₁, hpull, hcall, rfl⟩
  · exact ⟨_, _, hp, .finishes hpull⟩
  · exact (hp.tail (.pulls hpull)).tail (.calls hcall)

theorem completes_of_pulling {fault : Fault Value}
    (hp : Reached h F w (.pulling worker iterator accumulator) u)
    (hr : Loop.foldElement h (.apply F.step) iterator accumulator u = .error (.raised fault) w') :
    Completes h F w (.raised fault (w'.callableName worker)) w' := by
  rcases Loop.of_foldElement_raised hr with hpull | ⟨element, u₁, hpull, hcall⟩
  · exact ⟨_, _, hp, .pullRaises hpull⟩
  · exact ⟨_, _, hp.tail (.pulls hpull), .callRaises hcall⟩

/-- **The rounds of the fold are points of the plain loop.** -/
theorem heads_of_comes (hr : (F.rounds h).Comes w r u) : Heads h F w r u := by
  induction hr with
  | first hstart =>
    obtain ⟨iterator, w₁, hopen, hr⟩ := Eff.exists_of_bind_ok hstart
    exact heads_of_pulling (.single (.opens hopen)) hr
  | next _ hpart hnext ih => exact heads_of_pulling (.tail ih (.runs hpart)) hnext

/-- What the rounds of the fold lead to is an end of the plain loop. -/
theorem completes_of_goes {parts : List Part} {verdict : Verdict} {k : Counters}
    (hg : (F.rounds h).Goes r u parts verdict k w') (hr : (F.rounds h).Comes w r u) :
    Completes h F w verdict.exit w' := by
  induction hg with
  | ended => exact (heads_of_comes hr).elim
  | finish => exact heads_of_comes hr
  | stopped hpart hstop =>
    rw [Verdict.exit_outward]
    exact ⟨_, _, heads_of_comes hr, .nodeStops hpart hstop⟩
  | raised hpart hnext =>
    rw [Verdict.exit_ofMishap]
    exact completes_of_pulling (ReflTransGen.tail (heads_of_comes hr) (.runs hpart)) hnext
  | round hpart hnext _ ih => exact ih (.next hr hpart hnext)

/-- A round that is built from a pull is one that the fold comes to. -/
theorem Begins.comes (hb : Begins h F w worker iterator accumulator u)
    (hr : Loop.foldElement h (.apply F.step) iterator accumulator u = .ok r w') :
    (F.rounds h).Comes w r w' := by
  cases hb with
  | first hopen => exact .first ((Eff.bind_of_ok hopen).trans hr)
  | later hcomes hnode => exact .next hcomes hnode hr

/-- **Every point of the plain loop has its place in the rounds.** -/
theorem stage_of_reached {q : Point × World} (hq : ReflTransGen (Next h F) (.opening, w) q) :
    Stage h F w q := by
  induction hq with
  | refl => rfl
  | tail _ hnext ih =>
    cases hnext with
    | opens hopen =>
      cases ih
      exact .first hopen
    | pulls hpull => exact ⟨_, ih, hpull⟩
    | calls hcall =>
      obtain ⟨u₀, hbegins, hpull⟩ := ih
      exact hbegins.comes (Loop.foldElement_of_run hpull hcall)
    | runs hnode => exact .later ih hnode

/-- **The node of a step is run where the plain loop runs it.** -/
theorem reached_running_iff {node : Value} :
    Reached h F w (.running iterator node) u ↔ (F.rounds h).Comes w (.run node iterator) u :=
  ⟨fun hp => stage_of_reached hp, heads_of_comes⟩

/-! ### The ends of the plain loop are the verdicts of the fold -/

/-- A round that cannot be built ends the fold, and its worker is blamed. -/
theorem Begins.unrolls_of_raised {j : Nat} (hs : F.starter = (F.rounds h).starter j)
    {fault : Fault Value} (hb : Begins h F w worker iterator accumulator u)
    (hr : Loop.foldElement h (.apply F.step) iterator accumulator u = .error (.raised fault) w') :
    ∃ parts k, (F.rounds h).Unrolls j w parts (.ofMishap (fault, w'.callableName worker)) k w' := by
  cases hb with
  | first hopen =>
    rw [hs]
    exact ⟨[], _, .raised ((Eff.bind_of_ok hopen).trans hr)⟩
  | later hcomes hnode => exact hcomes.unrolls (.raised hnode hr) j

/-- **The plain loop ends as the fold does:** with the value, the fault or the unknown variant that the
fold evaluates to, in the same world. -/
theorem completes_iff {i j : Nat} (hs : F.starter = (F.rounds h).starter j) {exit : Exit} :
    Completes h F w exit w' ↔
      ∃ verdict k, Evaluates h ((F.rounds h).node i j) w verdict k w' ∧ verdict.exit = exit := by
  constructor
  · rintro ⟨p, u, hp, hend⟩
    have hstage := stage_of_reached hp
    have hunrolls : ∃ parts verdict k,
        (F.rounds h).Unrolls j w parts verdict k w' ∧ verdict.exit = exit := by
      cases hend with
      | finishes hpull =>
        obtain ⟨parts, k, hu⟩ := (hstage.comes (Eff.bind_of_ok hpull)).unrolls .finish j
        exact ⟨parts, _, k, hu, rfl⟩
      | openRaises hopen =>
        cases hstage
        rw [hs]
        exact ⟨[], _, _, .raised (Eff.bind_of_error hopen), Verdict.exit_ofMishap _ _⟩
      | pullRaises hpull =>
        obtain ⟨parts, k, hu⟩ := hstage.unrolls_of_raised hs (Eff.bind_of_error hpull)
        exact ⟨parts, _, k, hu, Verdict.exit_ofMishap _ _⟩
      | callRaises hcall =>
        obtain ⟨u₀, hbegins, hpull⟩ := hstage
        obtain ⟨parts, k, hu⟩ :=
          hbegins.unrolls_of_raised hs (Loop.foldElement_of_raised hpull hcall)
        exact ⟨parts, _, k, hu, Verdict.exit_ofMishap _ _⟩
      | nodeStops hnode hstop =>
        obtain ⟨parts, k, hu⟩ := hstage.unrolls (.stopped hnode hstop) j
        exact ⟨parts, _, k, hu, Verdict.exit_outward _⟩
    obtain ⟨parts, verdict, k, hu, hexit⟩ := hunrolls
    exact ⟨verdict, k, Loop.evaluates_node_iff.2 ⟨parts, hu⟩, hexit⟩
  · rintro ⟨verdict, k, he, rfl⟩
    obtain ⟨parts, hu⟩ := Loop.evaluates_node_iff.1 he
    cases hu with
    | raised hstart =>
      rw [Verdict.exit_ofMishap, ← hs]
      rcases Eff.of_bind_error hstart with hopen | ⟨iterator, u, hopen, hr⟩
      · exact ⟨_, _, .refl, .openRaises hopen⟩
      · exact completes_of_pulling (.single (.opens hopen)) hr
    | started hstart hrest => exact completes_of_goes hrest (.first hstart)

end rounds

/-! ### Every state of a run lies in the plain loop -/

/-- **Where a state of a run lies in the plain loop** from a world. -/
inductive Lies (h : Host) (settings : Settings) (F : PlainFold) (node : Value) (w : World)
    (b : State × World) : Prop where
  /-- Nothing was done yet. -/
  | before (hcurrent : b.1.current = node ∨ b.1.current = .unit) (hw : b.2 = w)
  /-- The node of a step is to be run. -/
  | between {iterator part} (hp : Reached h F w (.running iterator part) b.2)
      (hcurrent : b.1.current = .sequenced part (.foldNext iterator (.apply F.step)))
      (hstack : b.1.stack = .empty)
  /-- The node of a step is being run, as it is run alone. -/
  | inside {iterator part u a n} (hp : Reached h F w (.running iterator part) u)
      (ha : Reaches h settings (.start part, u) a)
      (hb : Above (.continuation (F.later iterator)) n a b)
  /-- The loop is over. -/
  | after {v} (hend : Completes h F w (.gives v) b.2) (hcurrent : b.1.current = .done v)
      (hstack : b.1.stack = .empty)

theorem lies_of_reaches {h : Host} {F : PlainFold} {settings : Settings} (hp : settings.Plain)
    {i j : Nat} {w : World} {b : State × World}
    (hb : Reaches h settings (.start ((F.rounds h).node i j), w) b) :
    Lies h settings F ((F.rounds h).node i j) w b := by
  obtain ⟨parts, last, u, hspine, hstands⟩ := reaches_stands hp hb
  rcases Loop.comes_of_spine hp hspine with ⟨rfl, rfl⟩ | ⟨r, rfl, hr⟩
  · cases hstands with
    | bare => exact .before (.inl rfl) rfl
    | framed hopening ha habove =>
      cases hopening
      cases ha.eq_of_finished hp
      exact .before (.inr habove.current) habove.world
  · have hheads := heads_of_comes hr
    cases r with
    | ended => exact hheads.elim
    | finish v =>
      cases hstands with
      | bare => exact .after hheads rfl rfl
      | framed hopening => cases hopening
    | run part iterator =>
      cases hstands with
      | bare => exact .between hheads rfl rfl
      | framed hopening ha habove =>
        cases hopening
        exact .inside hheads ha habove

end PlainFold

/-! ### Reports of a fold -/

namespace Machine

variable {w : World} {fault : Fault Value} {label : Value} {step discarded : Nat}

/-- A failure is reported if there are words for it. -/
theorem exists_worded_iff :
    (∃ f, worded w fault label step discarded = .ok f) ↔ ∃ texts, words w fault label = .ok texts := by
  unfold worded
  cases words w fault label <;> simp [Except.map]

theorem worded_eq_error_iff {c : Complaint} :
    worded w fault label step discarded = .error c ↔ words w fault label = .error c := by
  unfold worded
  cases words w fault label <;> simp [Except.map]

end Machine

namespace Verdict

variable {verdict : Verdict} {w : World} {k : Counters}

theorem ending_finished_iff_exit {v : Value} :
    verdict.ending w k = .finished v ↔ verdict.exit = .gives v := by
  rw [ending_eq_finished_iff]
  cases verdict <;> simp [exit]

theorem ending_failed_iff_exit {e : Fault Value} :
    (∃ f, verdict.ending w k = .failed f ∧ f.cause = e) ↔
      ∃ place, verdict.exit = .fails e place ∧ ∃ texts, words w e place = .ok texts := by
  constructor
  · rintro ⟨f, hending, rfl⟩
    obtain ⟨e, label, pending, rfl, hf⟩ := ending_eq_failed_iff.1 hending
    rw [cause_of_worded hf]
    exact ⟨label, rfl, exists_worded_iff.1 ⟨f, hf⟩⟩
  · rintro ⟨place, hexit, htexts⟩
    cases verdict with
    | failure fault label pending =>
      cases hexit
      obtain ⟨f, hf⟩ := exists_worded_iff.2 htexts
      exact ⟨f, ending_eq_failed_iff.2 ⟨_, _, _, rfl, hf⟩, cause_of_worded hf⟩
    | value _ | unknown _ _ | interrupt _ => cases hexit

theorem ending_aborted_iff_exit {reason : Abort} :
    verdict.ending w k = .aborted reason ↔
      ∃ typeName, reason = .unknownVariant typeName ∧ verdict.exit = .stuck typeName := by
  rw [ending_eq_aborted_iff]
  cases verdict <;> simp [exit]

theorem ending_interrupted_iff_exit {fault : Fault Value} :
    verdict.ending w k = .interrupted fault ↔ verdict.exit = .passes fault ∨
      ∃ e place c, verdict.exit = .fails e place ∧ words w e place = .error c ∧ c.fault = fault := by
  rw [ending_eq_interrupted_iff]
  cases verdict <;> simp [exit, worded_eq_error_iff]

end Verdict

/-- A text that is short enough is left as it is. -/
theorem World.shorten_of_le {limit : Int} {text : String} (hle : (text.length : Int) ≤ limit) :
    shorten limit text = text := if_neg (Int.not_lt.2 hle)

/-- The text of a suspended node that was just built is always the same. -/
theorem World.describe?_suspend (w : World) (factory : Factory Value) :
    w.describe? (.suspend factory) = .ok "FlatMap(Done, suspend.<locals>.<lambda>)" := by
  have hrepr : w.repr? (.suspend factory) = .ok "FlatMap(Done, suspend.<locals>.<lambda>)" := by
    rw [World.repr?, World.spellOut, Value.suspend, Value.sequenced, Value.ofNode, World.spellWith,
      Datum.repr?, World.nodeText]
    rfl
  have hshort : ("FlatMap(Done, suspend.<locals>.<lambda>)".length : Int) ≤ descriptionLimit := by decide
  rw [World.describe?, hrepr, Except.map, shorten_of_le hshort]

/-- **A run never ends** where its node comes to nothing, and only there. -/
theorem exhausted_iff_not_evaluates {h : Host} {settings : Settings} (hp : settings.Plain)
    {node : Value} (hnode : node.isNode = true) {w : World} {description : String}
    (hd : w.ticked.describe? node = .ok description) :
    (∀ fuel, ∃ u, runReport h fuel settings node w = .error .exhausted u) ↔
      ∀ verdict k w', ¬ Evaluates h node (w.opened description) verdict k w' := by
  constructor
  · intro hends verdict k w' he
    rcases (verdict.ending w' k).eq_ending_or_interrupted with ⟨o, ho⟩ | ⟨fault, hfault⟩
    · obtain ⟨fuel, r, hrun, -⟩ := (reports_iff hp hnode hd).2 ⟨verdict, k, he, ho⟩
      obtain ⟨u, hu⟩ := hends fuel
      rw [hu] at hrun
      cases hrun
    · obtain ⟨fuel, steps, hrun⟩ := (raises_iff hp hnode hd).2 ⟨verdict, k, he, hfault⟩
      obtain ⟨u, hu⟩ := hends fuel
      rw [hu] at hrun
      cases hrun
  · intro hnothing fuel
    rw [runReport_of_described hnode hd]
    cases hdrive : drive h settings fuel (.start node) (w.opened description) with
    | ok r u =>
      obtain ⟨verdict, k, he, -⟩ := (runs_iff hp).1 ⟨fuel, r.2, hdrive, rfl⟩
      exact absurd he (hnothing verdict k u)
    | error signal u =>
      rw [Eff.bind_of_error hdrive]
      cases signal with
      | raised fault => exact absurd hdrive (drive_calm _ _ _ _ _)
      | exhausted => exact ⟨u, rfl⟩

/-! ### Reports of what ends in a given way -/

/-- The ends of a node, from a world, are the given ones. -/
def EndsAs (h : Host) (node : Value) (w : World) (Ends : PlainFold.Exit → World → Prop) : Prop :=
  ∀ exit w', Ends exit w' ↔ ∃ verdict k, Evaluates h node w verdict k w' ∧ verdict.exit = exit

/-- From a world a node ends in one way only. -/
theorem EndsAs.unique {h : Host} {node : Value} {w w' w'' : World} {exit exit' : PlainFold.Exit}
    {Ends : PlainFold.Exit → World → Prop} (hends : EndsAs h node w Ends) (hend : Ends exit w')
    (hend' : Ends exit' w'') : exit = exit' ∧ w' = w'' := by
  obtain ⟨verdict, k, he, rfl⟩ := (hends _ _).1 hend
  obtain ⟨verdict', k', he', rfl⟩ := (hends _ _).1 hend'
  obtain ⟨rfl, -, rfl⟩ := he.only he'
  exact ⟨rfl, rfl⟩

/-- **What a run of a node reports and raises,** if the given ends are those of the node. -/
structure Reported (h : Host) (settings : Settings) (node : Value) (w : World)
    (Ends : PlainFold.Exit → World → Prop) : Prop where
  gives : ∀ v w', Reports h settings node w (.finished v) w' ↔ Ends (.gives v) w'
  /-- A failure is reported if there are words for it. -/
  fails : ∀ e w', (∃ f, Reports h settings node w (.failed f) w' ∧ f.cause = e) ↔
    ∃ place, Ends (.fails e place) w' ∧ ∃ texts, words w' e place = .ok texts
  stuck : ∀ reason w', Reports h settings node w (.aborted reason) w' ↔
    ∃ typeName, reason = .unknownVariant typeName ∧ Ends (.stuck typeName) w'
  /-- What interrupts the node is raised, and so is the complaint where there are no words. -/
  passes : ∀ fault w', Raises h settings node w fault w' ↔ Ends (.passes fault) w' ∨
    ∃ e place c, Ends (.fails e place) w' ∧ words w' e place = .error c ∧ c.fault = fault
  endless : (∀ fuel, ∃ u, runReport h fuel settings node w = .error .exhausted u) ↔
    ∀ exit w', ¬ Ends exit w'

section reported

variable {h : Host} {settings : Settings} (hp : settings.Plain) {node : Value}
  (hnode : node.isNode = true) {w : World} {description : String}
  (hd : w.ticked.describe? node = .ok description) {Ends : PlainFold.Exit → World → Prop}
include hp hnode hd

/-- A described node is reported as it ends in the opened world. -/
theorem EndsAs.reported (hends : EndsAs h node (w.opened description) Ends) :
    Reported h settings node w Ends where
  gives v w' := by
    rw [reports_iff hp hnode hd, hends]
    exact exists₂_congr fun _ _ => and_congr_right fun _ => Verdict.ending_finished_iff_exit
  fails e w' := by
    constructor
    · rintro ⟨f, hreports, hcause⟩
      obtain ⟨verdict, k, he, hending⟩ := (reports_iff hp hnode hd).1 hreports
      obtain ⟨place, hexit, htexts⟩ := Verdict.ending_failed_iff_exit.1 ⟨f, hending, hcause⟩
      exact ⟨place, (hends _ _).2 ⟨verdict, k, he, hexit⟩, htexts⟩
    · rintro ⟨place, hend, htexts⟩
      obtain ⟨verdict, k, he, hexit⟩ := (hends _ _).1 hend
      obtain ⟨f, hending, hcause⟩ := Verdict.ending_failed_iff_exit.2 ⟨place, hexit, htexts⟩
      exact ⟨f, (reports_iff hp hnode hd).2 ⟨verdict, k, he, hending⟩, hcause⟩
  stuck reason w' := by
    rw [reports_iff hp hnode hd]
    constructor
    · rintro ⟨verdict, k, he, hending⟩
      obtain ⟨typeName, hreason, hexit⟩ := Verdict.ending_aborted_iff_exit.1 hending
      exact ⟨typeName, hreason, (hends _ _).2 ⟨verdict, k, he, hexit⟩⟩
    · rintro ⟨typeName, hreason, hend⟩
      obtain ⟨verdict, k, he, hexit⟩ := (hends _ _).1 hend
      exact ⟨verdict, k, he, Verdict.ending_aborted_iff_exit.2 ⟨typeName, hreason, hexit⟩⟩
  passes fault w' := by
    rw [raises_iff hp hnode hd]
    constructor
    · rintro ⟨verdict, k, he, hending⟩
      rcases Verdict.ending_interrupted_iff_exit.1 hending with hexit | ⟨e, place, c, hexit, hc⟩
      · exact .inl ((hends _ _).2 ⟨verdict, k, he, hexit⟩)
      · exact .inr ⟨e, place, c, (hends _ _).2 ⟨verdict, k, he, hexit⟩, hc⟩
    · rintro (hend | ⟨e, place, c, hend, hc⟩)
      · obtain ⟨verdict, k, he, hexit⟩ := (hends _ _).1 hend
        exact ⟨verdict, k, he, Verdict.ending_interrupted_iff_exit.2 (.inl hexit)⟩
      · obtain ⟨verdict, k, he, hexit⟩ := (hends _ _).1 hend
        exact ⟨verdict, k, he, Verdict.ending_interrupted_iff_exit.2 (.inr ⟨e, place, c, hexit, hc⟩)⟩
  endless := by
    rw [exhausted_iff_not_evaluates hp hnode hd]
    constructor
    · intro hnothing exit w' hend
      obtain ⟨verdict, k, he, -⟩ := (hends _ _).1 hend
      exact hnothing verdict k w' he
    · exact fun hnothing verdict k w' he => hnothing _ w' ((hends _ _).2 ⟨verdict, k, he, rfl⟩)

end reported

/-! ### The fold -/

namespace PlainFold

/-- **A node is run as a plain loop** from a world, `opened` being the world in which its run begins. -/
structure Describes (h : Host) (settings : Settings) (F : PlainFold) (node : Value)
    (w opened : World) : Prop where
  gives : ∀ v w', Reports h settings node w (.finished v) w' ↔ F.Completes h opened (.gives v) w'
  /-- A failure is reported if there are words for it. -/
  fails : ∀ e w', (∃ f, Reports h settings node w (.failed f) w' ∧ f.cause = e) ↔
    ∃ place, F.Completes h opened (.fails e place) w' ∧ ∃ texts, words w' e place = .ok texts
  stuck : ∀ reason w', Reports h settings node w (.aborted reason) w' ↔
    ∃ typeName, reason = .unknownVariant typeName ∧ F.Completes h opened (.stuck typeName) w'
  /-- What interrupts the loop is raised, and so is the complaint where there are no words. -/
  passes : ∀ fault w', Raises h settings node w fault w' ↔ F.Completes h opened (.passes fault) w' ∨
    ∃ e place c, F.Completes h opened (.fails e place) w' ∧ words w' e place = .error c ∧ c.fault = fault
  endless : (∀ fuel, ∃ u, runReport h fuel settings node w = .error .exhausted u) ↔
    ∀ exit w', ¬ F.Completes h opened exit w'
  /-- The node of each step is run where the loop runs it, above the one frame that goes on with it. -/
  running : ∀ iterator part u, F.Reached h opened (.running iterator part) u →
    ∃ c, Reaches h settings (.start node, opened)
      (⟨part, Stack.empty.push (.continuation (F.later iterator)), c⟩, u)
  /-- Every state of the run lies in the loop. -/
  lying : ∀ b, Reaches h settings (.start node, opened) b → F.Lies h settings node opened b

/-- The node of a fold is run as the plain loop. -/
theorem describes {h : Host} {F : PlainFold} {settings : Settings} (hp : settings.Plain) {i j : Nat}
    (hs : F.starter = (F.rounds h).starter j) {w : World} {description : String}
    (hd : w.ticked.describe? ((F.rounds h).node i j) = .ok description) :
    F.Describes h settings ((F.rounds h).node i j) w (w.opened description) := by
  have hends : EndsAs h ((F.rounds h).node i j) (w.opened description)
      (F.Completes h (w.opened description)) := fun _ _ => completes_iff hs
  have hreported := hends.reported hp rfl hd
  exact
    { gives := hreported.gives
      fails := hreported.fails
      stuck := hreported.stuck
      passes := hreported.passes
      endless := hreported.endless
      running := fun iterator part u hr => by
        obtain ⟨c, hreach⟩ := (reached_running_iff.1 hr).reaches hp i j
        exact ⟨_, hreach.tail (next_sequence hp 0 part (F.later iterator) .empty c u)⟩
      lying := fun _ hb => lies_of_reaches hp hb }

end PlainFold

/-- **A fold is the plain loop.**  A fold that was just built can always be described, and what cannot
be described is not run.  Otherwise, whatever the host does, a run of the fold reports the value, the
failure or the unknown variant that the plain loop ends with, in the same world, and raises the
interrupt that it ends with; where there are no words for the failure, the complaint about that is
raised.  The run never ends if the loop never does.  The node of each step is run where the loop runs
it, and every state of the run lies in the loop. -/
theorem fold_loops {h : Host} {settings : Settings} (hp : settings.Plain)
    {elements initial step node : Value}
    (hn : Repeats h node (.fold h elements initial (.apply step))) (w : World) :
    (Graph.fold elements initial step = .ok node → ∃ text, w.ticked.describe? node = .ok text) ∧
    (∀ c, w.ticked.describe? node = .error c → ∀ fuel,
      runReport h fuel settings node w = .error (.raised c.fault) w.ticked) ∧
    ∃ i starter, node = .node i (.flatMap .unit starter) ∧
      ∀ description, w.ticked.describe? node = .ok description →
        PlainFold.Describes h settings ⟨elements, initial, step, starter⟩ node w
          (w.opened description) := by
  obtain ⟨i, j, rfl⟩ := hn.exists_node
  refine ⟨fun hfold => ?_, fun c hc fuel => runReport_of_undescribed rfl hc, i, _, rfl,
    fun description hd => ?_⟩
  · obtain ⟨-, hnode⟩ := Graph.of_ite_ok hfold
    rw [← hnode]
    exact ⟨_, World.describe?_suspend _ _⟩
  · exact PlainFold.describes (F := ⟨elements, initial, step, _⟩) hp rfl hd

/-- An end of iteration that a step raises is a failure, and the element after it can still be pulled. -/
theorem fold_loops_stopped_step :
    let h := Script.host 1
    let fault : Fault Value := ⟨.stopIteration, [], .plain, 1⟩
    let step : Value := .closure ⟨1, none, ["a", "x"], .expr (.primitive .raise [.var "a"] []), []⟩
    let w := { Script.SessionInput.recorded with iterators := #[.items [.int 1, .int 2]] }
    let settings := Script.settingsOf w .none (.bool false)
    ∃ node f u u', settings.Plain ∧ Graph.fold (.iterator 0) (.fault fault) step = .ok node ∧
      Reports h settings node w (.failed f) u ∧ f.cause = fault ∧
      h.pull (.iterator 0) u = .ok (some (.int 2)) u' := by
  intro h fault step w settings
  have hp : settings.Plain := Settings.plain_settingsOf w
  have hfold : Graph.fold (.iterator 0) (.fault fault) step =
      .ok (Graph.foldWith (.iterator 0) (.fault fault) (.apply step)) := rfl
  obtain ⟨hdescribed, -, i, starter, hnode, hruns⟩ := fold_loops (h := h) hp (.fold hfold) w
  obtain ⟨text, htext⟩ := hdescribed hfold
  cases hnode
  have hloop := hruns text htext
  let u := { w.opened text with iterators := #[.items [.int 2]] }
  have hopen : h.openIterator (.iterator 0) (w.opened text) = .ok (.iterator 0) (w.opened text) := rfl
  have hpull : h.pull (.iterator 0) (w.opened text) = .ok (some (.int 1)) u := rfl
  have hcall : h.call step [.fault fault, .int 1] [] u = .error (.raised fault) u := rfl
  have hcompletes (starter : Value) :
      PlainFold.Completes h ⟨.iterator 0, .fault fault, step, starter⟩ (w.opened text)
        (.raised fault (u.callableName starter)) u :=
    ⟨_, _, .tail (.single (.opens hopen)) (.pulls hpull), .callRaises hcall⟩
  have hwords : words u fault (.str "suspend.<locals>.<lambda>") =
      .ok ("suspend.<locals>.<lambda>", "") := rfl
  obtain ⟨f, hreports, hcause⟩ := (hloop.fails fault u).2 ⟨_, hcompletes _, _, hwords⟩
  exact ⟨_, f, u, _, hp, hfold, hreports, hcause, rfl⟩

end EffectGraph
