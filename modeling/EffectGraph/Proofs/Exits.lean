import EffectGraph.Proofs.Folding

/-!
# How loops are over

A loop is over when its start raises a fault, when a round has nothing more to run, when the node of a
round gives no value, or when what the loop does with a value raises a fault (`Loop.Over`).  These are
the ends that the node of the loop evaluates to (`Loop.over_iff`), and every state of a run lies in the
rounds: nothing was done yet, a round is next, or the node of a round is being run above one frame
(`Loop.lies_of_reaches`).

What a description of the ends of a node calls a failure, a guarded region around the node catches
(`Rescued`).
-/

namespace EffectGraph

open Machine

/-- What is raised is not given. -/
theorem PlainFold.Exit.raised_ne_gives (fault : Fault Value) (place v : Value) :
    Exit.raised fault place ≠ .gives v := by
  unfold Exit.raised
  split <;> simp

theorem Verdict.isValue_of_exit {verdict : Verdict} {v : Value} (hexit : verdict.exit = .gives v) :
    verdict.isValue = true := by
  cases verdict with
  | value v => rfl
  | _ => cases hexit

namespace Loop

variable {h : Host} (L : Loop h)

/-- **A loop is over,** in a world. -/
inductive Over (j : Nat) (w : World) : PlainFold.Exit → World → Prop where
  /-- A fault at the start is blamed on the factory. -/
  | startRaises {fault w'} (hstart : L.start w = .error (.raised fault) w') :
      Over j w (.raised fault (w'.callableName (L.starter j))) w'
  | ends {u} (hr : L.Comes w .ended u) : Over j w (.gives .none) u
  | finishes {v u} (hr : L.Comes w (.finish v) u) : Over j w (.gives v) u
  | stops {part s verdict k u w'} (hr : L.Comes w (.run part s) u)
      (hpart : Evaluates h part u verdict k w') (hstop : verdict.isValue = false) :
      Over j w verdict.exit w'
  /-- A fault after a part is blamed on the callback that the value of the part was given to. -/
  | nextRaises {part s v k fault u u' w'} (hr : L.Comes w (.run part s) u)
      (hpart : Evaluates h part u (.value v) k u') (hnext : L.next s v u' = .error (.raised fault) w') :
      Over j w (.raised fault (w'.callableName (.ofCallback (L.onward s)))) w'

/-- **Where a state of a run lies in the rounds of a loop.** -/
inductive Lies (settings : Settings) (node : Value) (w : World) (b : Machine.State × World) : Prop where
  /-- Nothing was done yet. -/
  | before (hcurrent : b.1.current = node ∨ b.1.current = .unit) (hw : b.2 = w)
  /-- A round is next. -/
  | between {r} (hr : L.Comes w r b.2) (hcurrent : b.1.current = r.node L.onward)
      (hstack : b.1.stack = .empty)
  /-- The node of a round is being run, as it is run alone. -/
  | inside {part s u a n} (hr : L.Comes w (.run part s) u) (ha : Reaches h settings (.start part, u) a)
      (hb : Above (.continuation (.ofCallback (L.onward s))) n a b)

variable {L} {w u w' : World} {r : Round L.State} {parts : List Part} {verdict : Verdict}
  {k : Counters} {exit : PlainFold.Exit} {i j : Nat}

/-- Going through the rest of the rounds ends the loop. -/
theorem Goes.over (hg : L.Goes r u parts verdict k w') (hr : L.Comes w r u) (j : Nat) :
    L.Over j w verdict.exit w' := by
  induction hg with
  | ended => exact .ends hr
  | finish => exact .finishes hr
  | stopped hpart hstop =>
    rw [Verdict.exit_outward]
    exact .stops hr hpart hstop
  | raised hpart hnext =>
    rw [Verdict.exit_ofMishap]
    exact .nextRaises hr hpart hnext
  | round hpart hnext _ ih => exact ih (.next hr hpart hnext)

/-- **A loop is over as its node evaluates.** -/
theorem over_iff :
    L.Over j w exit w' ↔ ∃ verdict k, Evaluates h (L.node i j) w verdict k w' ∧ verdict.exit = exit := by
  constructor
  · intro hover
    have hunrolls : ∃ verdict parts k, L.Unrolls j w parts verdict k w' ∧ verdict.exit = exit := by
      cases hover with
      | startRaises hstart => exact ⟨_, _, _, .raised hstart, Verdict.exit_ofMishap _ _⟩
      | ends hr =>
        obtain ⟨parts, k, hu⟩ := hr.unrolls .ended j
        exact ⟨_, parts, k, hu, rfl⟩
      | finishes hr =>
        obtain ⟨parts, k, hu⟩ := hr.unrolls .finish j
        exact ⟨_, parts, k, hu, rfl⟩
      | stops hr hpart hstop =>
        obtain ⟨parts, k, hu⟩ := hr.unrolls (.stopped hpart hstop) j
        exact ⟨_, parts, k, hu, Verdict.exit_outward _⟩
      | nextRaises hr hpart hnext =>
        obtain ⟨parts, k, hu⟩ := hr.unrolls (.raised hpart hnext) j
        exact ⟨_, parts, k, hu, Verdict.exit_ofMishap _ _⟩
    obtain ⟨verdict, parts, k, hu, hexit⟩ := hunrolls
    exact ⟨verdict, k, evaluates_node_iff.2 ⟨parts, hu⟩, hexit⟩
  · rintro ⟨verdict, k, he, rfl⟩
    obtain ⟨parts, hu⟩ := evaluates_node_iff.1 he
    cases hu with
    | raised hstart =>
      rw [Verdict.exit_ofMishap]
      exact .startRaises hstart
    | started hstart hrest => exact hrest.over (.first hstart) j

/-- Every state of a run of the node of a loop lies in its rounds. -/
theorem lies_of_reaches {settings : Settings} (hp : settings.Plain) {b : Machine.State × World}
    (hb : Reaches h settings (.start (L.node i j), w) b) : L.Lies settings (L.node i j) w b := by
  obtain ⟨parts, last, u, hspine, hstands⟩ := reaches_stands hp hb
  rcases comes_of_spine hp hspine with ⟨rfl, rfl⟩ | ⟨r, rfl, hr⟩
  · cases hstands with
    | bare => exact .before (.inl rfl) rfl
    | framed hopening ha habove =>
      cases hopening
      cases ha.eq_of_finished hp
      exact .before (.inr habove.current) habove.world
  · cases hstands with
    | bare => exact .between hr rfl rfl
    | framed hopening ha habove =>
      cases r with
      | run part s =>
        cases hopening
        exact .inside hr ha habove
      | ended | finish _ => cases hopening

end Loop

/-! ### What is caught -/

/-- **A failure is caught around a node:** an attempt gives it as a value, and a handler is called on it
once the recovery is noted. -/
structure Rescued (h : Host) (node : Value) (fault : Fault Value) (w w' : World) : Prop where
  attempted : ∃ k message,
    Evaluates h (Graph.attempt node) w (.value (.failure (.fault fault))) k (w'.noted message)
  handled : ∃ message, ∀ i g verdict k u, Called h g (.fault fault) (w'.noted message) verdict k u →
    ∃ k', Evaluates h (.node i (.recover node g)) w verdict k' u

/-- What a node fails with is caught, if the place that is blamed has a text. -/
theorem EndsAs.rescued {h : Host} {node place : Value} {fault : Fault Value} {w w' : World}
    {Ends : PlainFold.Exit → World → Prop} (hends : EndsAs h node w Ends)
    (hend : Ends (.fails fault place) w') {text : String} (htext : w'.str? place = .ok text) :
    Rescued h node fault w w' := by
  obtain ⟨verdict, k, he, hexit⟩ := (hends _ _).1 hend
  cases verdict with
  | failure fault label pending =>
    cases hexit
    have hnoted (dropped : Nat) :
        ∃ message, recoveryNote fault place dropped w' = .ok () (w'.noted message) :=
      ⟨_, recoveryNote_apply htext fault dropped⟩
    constructor
    · obtain ⟨message, hnote⟩ := hnoted (pending + 1)
      have hsource := he.sequenceStopped (i := 0) (f := .ofCallback .wrapOk) rfl
      exact ⟨_, message, .rescue hsource hnote rfl .done⟩
    · obtain ⟨message, hnote⟩ := hnoted pending
      refine ⟨message, fun i g verdict k u hcalled => ?_⟩
      rw [evaluates_recover]
      exact ⟨_, .rescue he hnote hcalled⟩
  | value _ | unknown _ _ | interrupt _ => cases hexit

end EffectGraph
