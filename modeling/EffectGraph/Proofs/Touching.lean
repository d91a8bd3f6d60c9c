import EffectGraph.Proofs.Cells
import EffectGraph.Proofs.History
import EffectGraph.Proofs.Timeless

/-!
# What the machine touches

A step of the machine invokes one function at most (`State.invoked?`).  What else it does is to write
messages, to drop frames for a failure and to go on from a boundary, and a run reads the clock when it is
over: of all this nothing but the journal can tell (`Eff.Faint`).  So whatever a step does to the world is
what the function has done that it invokes (`akin_step`).
-/

namespace EffectGraph

open Machine

namespace Eff

variable {α β : Type}

/-- **A computation that changes nothing** but the clock and the messages. -/
def Faint (x : Eff α) : Prop := ∀ w : World, w.Akin (x.left w)

/-- What is faint shows nothing of itself after another computation. -/
theorem akin_left_bind {x : Eff α} {f : α → Eff β} (hf : ∀ a, Faint (f a)) (w : World) :
    (x.left w).Akin ((x >>= f).left w) := by
  cases hxw : x w with
  | ok a w₁ =>
    rw [left_bind_of_ok hxw, left_of_ok hxw]
    exact hf a w₁
  | error signal w₁ =>
    rw [left_of_error (bind_of_error hxw), left_of_error hxw]
    exact .refl w₁

namespace Faint

theorem pure (a : α) : Faint (Pure.pure a : Eff α) := fun w => .refl w

theorem get_bind {f : World → Eff α} (hf : ∀ w, Faint (f w)) : Faint (get >>= f) := fun w => hf w w

theorem bind {x : Eff α} {f : α → Eff β} (hx : Faint x) (hf : ∀ a, Faint (f a)) : Faint (x >>= f) :=
  fun w => (hx w).trans (akin_left_bind hf w)

theorem attempt {x : Eff α} (hx : Faint x) : Faint (Eff.attempt x) := by
  intro w
  rw [Operates.left_attempt]
  exact hx w

theorem note (message : World → Except Complaint String) : Faint (World.note message) := by
  intro w
  by_cases hrecords : w.journal.recording = true
  · cases hm : message w with
    | ok text =>
      rw [left_of_ok (World.note_of_ok hm)]
      exact .noted_self w text
    | error c =>
      have hnote : World.note message w = .error (.raised c.fault) w := by
        rw [World.note, bind_get, if_pos hrecords, hm]
        rfl
      rw [left_of_error hnote]
      exact .refl w
  · have hnote : World.note message w = .ok () w := by
      rw [World.note, bind_get, if_neg hrecords]
      rfl
    rw [left_of_ok hnote]
    exact .refl w

end Faint
end Eff

namespace Machine

variable {h : Host} {settings : Settings} {s : State} {w : World}

/-- What is done about a fault is faint. -/
theorem faint_mishap (s : State) (m : Mishap) : Eff.Faint (mishap s m) := by
  cases hfault : m.1.kind.isFailure with
  | false =>
    intro w
    rw [Eff.left_of_ok (mishap_of_interrupt hfault w)]
    exact .refl w
  | true =>
    rcases hs : s.stack.unwind with ⟨dropped, _ | ⟨g, rest⟩⟩
    · intro w
      rw [Eff.left_of_ok (mishap_of_no_landing hfault hs w)]
      exact .refl w
    · rw [mishap_of_landing hfault hs]
      refine .bind (.attempt (.note _)) fun r => ?_
      cases r <;> exact .pure _

/-- A node is looked at in the same world, but for a message about it. -/
theorem akin_seen (settings : Settings) (s : State) (w : World) : w.Akin (settings.seen s w) := by
  rcases described_seen settings s w with hsame | ⟨text, hnoted⟩
  · rw [hsame]
    exact .refl w
  · rw [hnoted]
    exact .noted_self w text

/-- The function that the step on a node invokes, and on what. -/
def State.invoked? (s : State) : Option (Value × List Value) :=
  match s.current with
  | .node _ (.delay thunk _) => some (thunk, [])
  | .node _ (.done v) =>
    match s.stack.pop? with
    | some (.continuation f, _) => some (f, [v])
    | _ => none
  | _ => none

/-- The world after an invocation, or as it is if nothing is invoked. -/
def leftBy (h : Host) (w : World) : Option (Value × List Value) → World
  | some (f, args) => (h.invoke f args).left w
  | none => w

theorem akin_applied (f v : Value) (w : World) :
    ((h.invoke f [v]).left w).Akin ((applied h f v).left w) := by
  rw [← Eff.Operates.left_attempt]
  refine Eff.akin_left_bind (fun r => ?_) w
  cases r with
  | error fault => exact .get_bind fun _ => .pure _
  | ok next =>
    simp only
    split
    · exact .pure _
    · exact .get_bind fun _ => .pure _

theorem akin_performed (thunk label : Value) (w : World) :
    ((h.invoke thunk []).left w).Akin ((performed h thunk label).left w) := by
  rw [← Eff.Operates.left_attempt]
  refine Eff.akin_left_bind (fun r => ?_) w
  cases r with
  | error fault => exact .get_bind fun _ => .pure _
  | ok value => exact .pure _

/-- **The machine touches the world through what it invokes only.** -/
theorem akin_dispatch (s : State) (w : World) :
    (leftBy h w s.invoked?).Akin ((dispatch h settings s).left w) := by
  cases hc : s.current with
  | node i n =>
    cases n with
    | done v =>
      simp only [dispatch, State.invoked?, hc]
      rcases hpop : s.stack.pop? with _ | ⟨f | g, rest⟩
      · exact .refl w
      · simp only [continueWith_eq]
        refine (akin_applied f v w).trans (Eff.akin_left_bind (fun answer => ?_) w)
        cases answer with
        | ok node => exact .pure _
        | error m => exact faint_mishap _ m
      · exact .refl w
    | delay thunk label =>
      simp only [dispatch, State.invoked?, hc, perform_eq]
      refine (akin_performed thunk label w).trans (Eff.akin_left_bind (fun answer => ?_) w)
      cases answer with
      | ok v => exact .pure _
      | error m => exact faint_mishap _ m
    | flatMap source f =>
      simp only [dispatch, State.invoked?, hc]
      exact .refl w
    | recover source g =>
      simp only [dispatch, State.invoked?, hc]
      exact .refl w
    | foreign variant =>
      simp only [dispatch, State.invoked?, hc]
      exact .refl w
  | _ =>
    simp only [dispatch, State.invoked?, hc]
    exact .refl w

/-- **A step that is taken does to the world what it invokes does.** -/
theorem akin_step (hshows : settings.Shows s w) :
    (leftBy h (settings.seen s w) s.invoked?).Akin ((step h settings s).left w) := by
  rw [Eff.left_congr (step_eq_dispatch hshows)]
  exact akin_dispatch s.counted (settings.seen s w)

/-- What is done once the machine has halted is faint. -/
theorem faint_concluded (startTime : Nat) (r : Ending × State) :
    Eff.Faint (concluded startTime r) := by
  obtain ⟨e, s⟩ := r
  intro w
  rcases e.eq_ending_or_interrupted with ⟨o, rfl⟩ | ⟨fault, rfl⟩
  · rw [Eff.left_of_ok (concluded_of_outcome o startTime s w)]
    exact .closed_self w _
  · rw [Eff.left_of_error (concluded_of_interrupted fault startTime s w)]
    exact .brokenOff_self w _

/-- **A run of a node has ended,** with a report or with what was raised. -/
def RunEnds (h : Host) (fuel : Nat) (settings : Settings) (node : Value) (w u : World) : Prop :=
  (∃ r, runReport h fuel settings node w = .ok r u) ∨
    ∃ fault, runReport h fuel settings node w = .error (.raised fault) u

/-- **A run that has ended** has driven the machine to a halt, and whatever else it has done
to the world is faint. -/
theorem exists_akin_drive {fuel : Nat} {node : Value} (hnode : node.isNode = true)
    {description : String} (hd : w.ticked.describe? node = .ok description) {u : World}
    (hrun : RunEnds h fuel settings node w u) :
    ∃ e s w', drive h settings fuel (.start node) (w.opened description) = .ok (e, s) w' ∧
      w'.Akin u := by
  have hleft : (runReport h fuel settings node).left w = u := by
    rcases hrun with ⟨r, hr⟩ | ⟨fault, hr⟩
    · exact Eff.left_of_ok hr
    · exact Eff.left_of_error hr
  rw [RunEnds, runReport_of_described hnode hd] at hrun
  rw [Eff.left_congr (runReport_of_described hnode hd)] at hleft
  cases hdrive : drive h settings fuel (.start node) (w.opened description) with
  | error signal w' =>
    rw [Eff.bind_of_error hdrive] at hrun
    rcases hrun with ⟨r, hr⟩ | ⟨fault, hr⟩
    · cases hr
    · cases hr
      exact absurd hdrive (drive_calm _ _ _ _ _)
  | ok r w' =>
    obtain ⟨e, s⟩ := r
    refine ⟨e, s, w', rfl, ?_⟩
    rw [Eff.left_congr (Eff.bind_of_ok hdrive)] at hleft
    rw [← hleft]
    exact faint_concluded _ _ w'

/-- A run whose machine has halted has ended, in a world that differs in nothing but the journal. -/
theorem exists_runEnds {fuel : Nat} {node : Value} (hnode : node.isNode = true) {description : String}
    (hd : w.ticked.describe? node = .ok description) {e : Ending} {s : State} {w' : World}
    (hdrive : drive h settings fuel (.start node) (w.opened description) = .ok (e, s) w') :
    ∃ u, RunEnds h fuel settings node w u ∧ w'.Akin u := by
  have hrun : runReport h fuel settings node w = concluded w.ticked.journal.clock (e, s) w' :=
    (runReport_of_described hnode hd).trans (Eff.bind_of_ok hdrive)
  rcases e.eq_ending_or_interrupted with ⟨o, rfl⟩ | ⟨fault, rfl⟩
  · exact ⟨_, .inl ⟨_, hrun.trans (concluded_of_outcome o _ s w')⟩, .closed_self w' _⟩
  · exact ⟨_, .inr ⟨_, hrun.trans (concluded_of_interrupted fault _ s w')⟩, .brokenOff_self w' _⟩

end Machine
end EffectGraph
