import EffectGraph.Proofs.Steps

/-!
# The meaning of a node, by recursion on the graph

`Evaluates h node w verdict cost w'` says without a stack what running a node comes to.  A finished
node gives its value.  A suspended action invokes its thunk once.  A sequence runs its source, invokes
its continuation once on the value and runs the node that this returns.  A guarded node runs its
source and, only if that fails, invokes its handler on the fault and runs the node that this returns
outside the region.  Whatever stops a source otherwise stops what stands around it.

A verdict says how a node ends: with a value, with a failure, because something that is no node of a
known variant was to be run, or with an interrupt.  The last two pass every guarded region.  A failure
knows the name it is reported under and how many continuations were waiting for it.

The cost is what the node adds to the counters of a run, whatever stands below it: `totalSteps` counts
the steps up to the one that hands on the value or that fails, and `maxStackDepth` is the largest
number of frames that the node has on top of those below it.

The only text in the semantics is the message that a boundary has caught a failure: it is written
before the handler is invoked, if the journal records, and a fault in wording it is an interrupt.
-/

namespace EffectGraph

open Machine

/-- How the run of a node ends. -/
inductive Verdict where
  /-- It gives a value. -/
  | value (v : Value)
  /-- It fails with a fault, reported under a label, and so many continuations waited for it. -/
  | failure (fault : Fault Value) (label : Value) (pending : Nat)
  /-- Something that is no node of a known variant was to be run, under so many frames. -/
  | unknown (typeName : String) (pending : Nat)
  /-- A fault that is no failure was raised. -/
  | interrupt (fault : Fault Value)

namespace Verdict

/-- Does the node give a value? -/
def isValue : Verdict → Bool
  | value _ => true
  | _ => false

/-- Does the verdict pass a guarded region untouched? -/
def escapes : Verdict → Bool
  | unknown _ _ => true
  | interrupt _ => true
  | _ => false

/-- The verdict as it is seen from outside of one more frame. -/
def outward : Verdict → Verdict
  | value v => value v
  | failure fault label pending => failure fault label (pending + 1)
  | unknown typeName pending => unknown typeName (pending + 1)
  | interrupt fault => interrupt fault

/-- A mishap is a failure, which a guarded region catches, or else an interrupt. -/
def ofMishap (m : Mishap) : Verdict :=
  if m.1.kind.isFailure then failure m.1 m.2 0 else interrupt m.1

theorem ofMishap_of_failure {m : Mishap} (hm : m.1.kind.isFailure = true) :
    ofMishap m = failure m.1 m.2 0 := if_pos hm

theorem ofMishap_of_interrupt {m : Mishap} (hm : m.1.kind.isFailure = false) :
    ofMishap m = interrupt m.1 := if_neg (by simp [hm])

theorem isValue_ofMishap (m : Mishap) : (ofMishap m).isValue = false := by
  unfold ofMishap
  split <;> rfl

end Verdict

namespace Machine.Counters

/-- The cost of a source that stops, with the step that put a frame below it. -/
def framed (m : Counters) : Counters :=
  { m with totalSteps := m.totalSteps + 1, maxStackDepth := m.maxStackDepth + 1 }

/-- The cost of a sequence: a source, the continuation, and the node that it returns. -/
def chained (m n : Counters) : Counters where
  totalSteps := m.totalSteps + 2 + n.totalSteps
  totalEffects := m.totalEffects + n.totalEffects
  totalContinuations := m.totalContinuations + 1 + n.totalContinuations
  totalRecoveries := m.totalRecoveries + n.totalRecoveries
  maxStackDepth := max (m.maxStackDepth + 1) n.maxStackDepth
  discardedContinuations := m.discardedContinuations + n.discardedContinuations

/-- The cost of a recovery: a source that fails with some continuations waiting, the handler, and the
node that it returns. -/
def rescued (m : Counters) (pending : Nat) (n : Counters) : Counters where
  totalSteps := m.totalSteps + 3 + n.totalSteps
  totalEffects := m.totalEffects + n.totalEffects
  totalContinuations := m.totalContinuations + 1 + n.totalContinuations
  totalRecoveries := m.totalRecoveries + 1 + n.totalRecoveries
  maxStackDepth := max (m.maxStackDepth + 1) n.maxStackDepth
  discardedContinuations := m.discardedContinuations + pending + n.discardedContinuations

end Machine.Counters

/-- **What running a node comes to:** from a world, a verdict, a cost and the world afterwards. -/
inductive Evaluates (h : Host) : Value → World → Verdict → Counters → World → Prop where
  | done {i v w} : Evaluates h (.node i (.done v)) w (.value v) .zero w
  | action {i thunk label v w w'} (hrun : performed h thunk label w = .ok (.ok v) w') :
      Evaluates h (.node i (.delay thunk label)) w (.value v) Counters.zero.acted w'
  | actionMishap {i thunk label m w w'} (hrun : performed h thunk label w = .ok (.error m) w') :
      Evaluates h (.node i (.delay thunk label)) w (.ofMishap m) Counters.zero.stepped w'
  /-- The continuation is invoked once on the value of the source, and its node is run. -/
  | sequence {i source f v node verdict m n w w₁ w₂ w₃}
      (hsource : Evaluates h source w (.value v) m w₁)
      (hf : applied h f v w₁ = .ok (.ok node) w₂) (hnode : Evaluates h node w₂ verdict n w₃) :
      Evaluates h (.node i (.flatMap source f)) w verdict (m.chained n) w₃
  | sequenceMishap {i source f v mis m w w₁ w₂} (hsource : Evaluates h source w (.value v) m w₁)
      (hf : applied h f v w₁ = .ok (.error mis) w₂) :
      Evaluates h (.node i (.flatMap source f)) w (.ofMishap mis) (m.chained .zero) w₂
  /-- A source that gives no value ends the sequence, whose continuation is not invoked. -/
  | sequenceStopped {i source f verdict m w w₁} (hsource : Evaluates h source w verdict m w₁)
      (hstop : verdict.isValue = false) :
      Evaluates h (.node i (.flatMap source f)) w verdict.outward m.framed w₁
  /-- A source that gives a value leaves its region, whose handler is not invoked. -/
  | region {i source g v m w w₁} (hsource : Evaluates h source w (.value v) m w₁) :
      Evaluates h (.node i (.recover source g)) w (.value v) m.framed.stepped w₁
  /-- After a failure the handler is invoked once on the fault, and its node is run outside. -/
  | rescue {i source g fault label pending node verdict m n w w₁ w₂ w₃ w₄}
      (hsource : Evaluates h source w (.failure fault label pending) m w₁)
      (hnote : recoveryNote fault label pending w₁ = .ok () w₂)
      (hg : applied h g (.fault fault) w₂ = .ok (.ok node) w₃)
      (hnode : Evaluates h node w₃ verdict n w₄) :
      Evaluates h (.node i (.recover source g)) w verdict (m.rescued pending n) w₄
  | rescueMishap {i source g fault label pending mis m w w₁ w₂ w₃}
      (hsource : Evaluates h source w (.failure fault label pending) m w₁)
      (hnote : recoveryNote fault label pending w₁ = .ok () w₂)
      (hg : applied h g (.fault fault) w₂ = .ok (.error mis) w₃) :
      Evaluates h (.node i (.recover source g)) w (.ofMishap mis) (m.rescued pending .zero) w₃
  | rescueRefused {i source g fault label pending refusal m w w₁ w₂}
      (hsource : Evaluates h source w (.failure fault label pending) m w₁)
      (hnote : recoveryNote fault label pending w₁ = .error (.raised refusal) w₂) :
      Evaluates h (.node i (.recover source g)) w (.interrupt refusal) m.framed w₂
  /-- What is neither a value nor a failure passes the region, whose handler is not invoked. -/
  | regionPassed {i source g verdict m w w₁} (hsource : Evaluates h source w verdict m w₁)
      (hpass : verdict.escapes = true) :
      Evaluates h (.node i (.recover source g)) w verdict.outward m.framed w₁
  | unknown {v w} (hv : v.isKnown = false) :
      Evaluates h v w (.unknown v.typeName 0) Counters.zero.stepped w

/-- A fault made from a text. -/
def Fault.ofText (text : String) : Fault Value := ⟨.valueError, [.str text], .plain, 0⟩

/-- A thunk that raises a fault has that mishap under the label of its action. -/
theorem performed_raiseFault (h : Host) (i : Nat) (fault : Fault Value) {label : String}
    (hlabel : label.isEmpty = false) (w : World) :
    performed h (.callback i (.raiseFault (.fault fault))) (.str label) w =
      .ok (.error (fault, .str label)) w := by
  have htruth : w.isTruthy (.str label) = true := by simp [World.isTruthy, hlabel]
  have hrun : performed h (.callback i (.raiseFault (.fault fault))) (.str label) w =
      .ok (.error (fault, if w.isTruthy (.str label) then .str label else _)) w := rfl
  rw [hrun, if_pos htruth]

/-- An action that raises a failure fails with it, under its label. -/
theorem evaluates_raiseFault (h : Host) (fault : Fault Value) (hfault : fault.kind.isFailure = true)
    (label : String) (hlabel : label.isEmpty = false) (w : World) :
    Evaluates h (Graph.action (.raiseFault (.fault fault)) label) w (.failure fault (.str label) 0)
      Counters.zero.stepped w := by
  rw [← Verdict.ofMishap_of_failure (m := (fault, .str label)) hfault]
  exact .actionMishap (performed_raiseFault h 0 fault hlabel w)

end EffectGraph
