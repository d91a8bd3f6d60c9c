import EffectGraph.Proofs.Calls
import EffectGraph.Proofs.Shadowing

/-!
# Conducts in context

What a program comes to alone decides what it comes to anywhere.  If its conduct refines that of
another, then a run that has come to it, whatever frames are waiting, ends as it would have ended with
the other one in its place: with the same value, the same fault or the same abort, after the same
number of actions, in a world that is alike, or not at all (`Conduct.Refines.mimics`).  Above any stack
the machine arrives at the verdict of the program (`Evaluates.arrives`), and from there two runs whose
counters and messages may differ go on level (`Verdict.Agrees.shadows`).

Programs whose conducts match are therefore equivalent under any frames, so inside of any sequences and
guarded nodes (`Equivalent.flatMap`, `Equivalent.recover`), and report alike as the roots of runs
(`Conduct.behaveAlike_of_matches`).
-/

namespace EffectGraph

open Machine

namespace Machine

variable {h : Host} {settings : Settings}

/-! ### Runs that mimic others -/

/-- **A state in a world mimics another:** if a run from the first ends, then so does one from the
second, in the same way, after as many actions, and in a world that is alike. -/
def Mimics (h : Host) (settings : Settings) (a b : State × World) : Prop :=
  ∀ ⦃fuel e s u⦄, drive h settings fuel a.1 a.2 = .ok (e, s) u →
    ∃ fuel' e' s' u', drive h settings fuel' b.1 b.2 = .ok (e', s') u' ∧ e.Same e' ∧
      s'.counters.totalEffects = s.counters.totalEffects ∧ u.Alike u'

/-- To mimic is to be shadowed in worlds that are alike, with the same number of actions. -/
theorem mimics_iff_shadows {a b : State × World} :
    Mimics h settings a b ↔ Shadows h settings (fun m n => n = m) World.Alike a b := Iff.rfl

/-- States mimic each other if states that are reached from them do. -/
theorem Mimics.of_reaches {a a' b b' : State × World} (hab : Reaches h settings a b)
    (hab' : Reaches h settings a' b') (hb : Mimics h settings b b') : Mimics h settings a a' :=
  mimics_iff_shadows.mpr (.of_reaches hab hab' (mimics_iff_shadows.mp hb))

end Machine

section mimics

variable {h : Host} {settings : Settings} (hh : h.Deaf) (hp : settings.Plain)
  {B : Stack} {c c' : Counters} {n n' : Value} {w w' : World}
include hh hp

/-- **A conduct that refines another is mimicked by it in every context,** whatever frames are waiting
and whatever was counted before. -/
theorem Conduct.Refines.mimics (hn : Conduct.Refines (Evaluates h n w) (Evaluates h n' w'))
    (hc : c'.totalEffects = c.totalEffects) :
    Mimics h settings (⟨n, B, c⟩, w) (⟨n', B, c'⟩, w') :=
  mimics_iff_shadows.mpr
    (shadows_of_evaluates World.kinship_alike hh.unaware hp reckoning_same hn hc)

end mimics

/-! ### Programs that behave as others -/

namespace Machine

/-- **Two programs in worlds are equivalent** if each mimics the other, whatever frames are waiting. -/
def Equivalent (h : Host) (settings : Settings) (a b : Value × World) : Prop :=
  ∀ (B : Stack) (c c' : Counters), c'.totalEffects = c.totalEffects →
    Mimics h settings (⟨a.1, B, c⟩, a.2) (⟨b.1, B, c'⟩, b.2) ∧
      Mimics h settings (⟨b.1, B, c'⟩, b.2) (⟨a.1, B, c⟩, a.2)

/-- **A program in a world never ends,** whatever frames are waiting. -/
def Diverges (h : Host) (settings : Settings) (a : Value × World) : Prop :=
  ∀ (B : Stack) (c : Counters) (fuel : Nat) (r : Ending × State) (u : World),
    drive h settings fuel ⟨a.1, B, c⟩ a.2 ≠ .ok r u

/-- **One program in a world reports as another does:** what its run gives or raises, that of the other
does. -/
structure ReportsAs (h : Host) (settings : Settings) (a b : Value × World) : Prop where
  report : ∀ fuel r u, runReport h fuel settings a.1 a.2 = .ok r u →
    ∃ fuel' r' u', runReport h fuel' settings b.1 b.2 = .ok r' u' ∧ r'.result = r.result ∧
      r'.counters.totalEffects = r.counters.totalEffects ∧ u.Alike u'
  raise : ∀ fuel fault u, runReport h fuel settings a.1 a.2 = .error (.raised fault) u →
    ∃ fuel' u', runReport h fuel' settings b.1 b.2 = .error (.raised fault) u' ∧ u.Alike u'

/-- **Programs behave alike** if they are equivalent in every world, and report alike as roots, provided
that they can be described there. -/
structure BehaveAlike (h : Host) (settings : Settings) (n n' : Value) : Prop where
  inContext : ∀ w, Equivalent h settings (n, w) (n', w)
  atRoot : ∀ w description description', w.ticked.describe? n = .ok description →
    w.ticked.describe? n' = .ok description' →
    ReportsAs h settings (n, w) (n', w) ∧ ReportsAs h settings (n', w) (n, w)

variable {h : Host} {settings : Settings}

/-- Programs that put the same frame below equivalent ones are equivalent. -/
theorem Equivalent.of_next {m m' n n' : Value} {w w' : World} {k : Frame Value}
    (hn : Equivalent h settings (n, w) (n', w'))
    (hm : ∀ B c, Next h settings (⟨m, B, c⟩, w) (⟨n, B.push k, c.entered (B.depth + 1)⟩, w))
    (hm' : ∀ B c, Next h settings (⟨m', B, c⟩, w') (⟨n', B.push k, c.entered (B.depth + 1)⟩, w')) :
    Equivalent h settings (m, w) (m', w') := by
  intro B c c' hc
  obtain ⟨hleft, hright⟩ := hn (B.push k) (c.entered (B.depth + 1)) (c'.entered (B.depth + 1)) hc
  exact ⟨.of_reaches (.single (hm B c)) (.single (hm' B c')) hleft,
    .of_reaches (.single (hm' B c')) (.single (hm B c)) hright⟩

/-- **Equivalent sources make equivalent sequences.** -/
theorem Equivalent.flatMap (hp : settings.Plain) (i j : Nat) {n n' : Value} {w w' : World}
    (hn : Equivalent h settings (n, w) (n', w')) (f : Value) :
    Equivalent h settings (.node i (.flatMap n f), w) (.node j (.flatMap n' f), w') :=
  hn.of_next (next_sequence hp i n f · · w) (next_sequence hp j n' f · · w')

/-- **Equivalent sources make equivalent guarded nodes.** -/
theorem Equivalent.recover (hp : settings.Plain) (i j : Nat) {n n' : Value} {w w' : World}
    (hn : Equivalent h settings (n, w) (n', w')) (g : Value) :
    Equivalent h settings (.node i (.recover n g), w) (.node j (.recover n' g), w') :=
  hn.of_next (next_region hp i n g · · w) (next_region hp j n' g · · w')

/-- Where the machine mimics, a run from a root reports as the other does. -/
theorem Mimics.reportsAs {n n' : Value} {w w' : World} {description description' : String}
    (hn : n.isNode = true) (hn' : n'.isNode = true) (hd : w.ticked.describe? n = .ok description)
    (hd' : w'.ticked.describe? n' = .ok description')
    (hm : Mimics h settings (.start n, w.opened description) (.start n', w'.opened description')) :
    ReportsAs h settings (n, w) (n', w') := by
  have hreported := (mimics_iff_shadows.mp hm).reportedBy World.kinship_alike hn hn' hd hd'
  refine ⟨fun fuel r u hrun => ?_, fun fuel fault u hrun => hreported.raise hrun⟩
  obtain ⟨fuel', r', u', hrun', ⟨hresult, hcount⟩, hu⟩ := hreported.report hrun
  exact ⟨fuel', r', u', hrun', hresult, hcount, hu⟩

end Machine

section alike

variable {h : Host} {settings : Settings} (hh : h.Deaf) (hp : settings.Plain) {n n' : Value}
  {w w' : World}
include hh hp

/-- **Programs whose conducts match are equivalent.** -/
theorem Conduct.Matches.equivalent (hn : Conduct.Matches (Evaluates h n w) (Evaluates h n' w')) :
    Equivalent h settings (n, w) (n', w') := fun _ _ _ hc =>
  ⟨hn.refines.mimics hh hp hc, hn.refined.mimics hh hp hc.symm⟩

/-- A program that comes to nothing never ends. -/
theorem diverges_of_not_evaluates (hn : ∀ verdict k u, ¬ Evaluates h n w verdict k u) :
    Diverges h settings (n, w) := by
  intro B c fuel r u hrun
  obtain ⟨d, -, hdepth, hmimics, -⟩ :=
    exists_counted World.kinship_alike hh.unaware hp reckoning_same n B c w
  obtain ⟨fuel', e, s, u', hrun', -⟩ := hmimics hrun
  obtain ⟨verdict, k, w₁, heval⟩ := meant hp fuel' hdepth ⟨_, _, hrun'⟩
  exact hn verdict k w₁ heval

/-- **Programs whose conducts match in the opened worlds report alike.** -/
theorem Conduct.Matches.reportsAs {description description' : String} (hn : n.isNode = true)
    (hn' : n'.isNode = true) (hd : w.ticked.describe? n = .ok description)
    (hd' : w'.ticked.describe? n' = .ok description')
    (hmatch : Conduct.Matches (Evaluates h n (w.opened description))
      (Evaluates h n' (w'.opened description'))) :
    ReportsAs h settings (n, w) (n', w') ∧ ReportsAs h settings (n', w') (n, w) :=
  ⟨Mimics.reportsAs hn hn' hd hd' (hmatch.refines.mimics hh hp rfl),
    Mimics.reportsAs hn' hn hd' hd (hmatch.refined.mimics hh hp rfl)⟩

/-- **Nodes whose conducts match behave alike.** -/
theorem Conduct.behaveAlike_of_matches (hn : n.isNode = true) (hn' : n'.isNode = true)
    (hmatch : ∀ w, Conduct.Matches (Evaluates h n w) (Evaluates h n' w)) :
    BehaveAlike h settings n n' where
  inContext w := (hmatch w).equivalent hh hp
  atRoot w description description' hd hd' := by
    -- the two worlds differ in the message that describes the node
    have hopened : (w.opened description).Alike (w.opened description') :=
      (World.Alike.refl w).opened description description'
    exact ((hmatch (w.opened description)).trans (evaluates_matches hh n' hopened)).reportsAs hh hp
      hn hn' hd hd'

end alike
end EffectGraph
