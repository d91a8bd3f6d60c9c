import EffectGraph.Proofs.Context
import EffectGraph.Proofs.Correspondence

/-!
# Runs that end alike

Runs of nodes whose conducts correspond end in the same way, after as many actions, and in worlds that
are related (`Conduct.Corresponds.endsAlike`); and where one never ends, the other does not.  The words
of a failure are looked up in the world in which a run ends.  So nodes that fail have to fail where
there are the same words for it.

Conducts concur if they come to the same in the same worlds, up to the labels under which failures are
reported, which have to stand for each other.  Runs of nodes whose conducts concur end alike as well.
-/

namespace EffectGraph

open Machine Conduct

/-- Verdicts that are like each other end runs in the same way, if failures have the same words. -/
theorem Verdict.Like.same_ending {verdict verdict' : Verdict} {u w : World}
    (hl : verdict.Like Eq verdict')
    (hwords : ∀ fault label pending, verdict = .failure fault label pending →
      words w fault label = words u fault label) (k k' : Counters) :
    (verdict.ending u k).Same (verdict'.ending w k') := by
  cases hl with
  | value hv => exact hv ▸ .finished _
  | unknown typeName pending pending' => exact .aborted _
  | interrupt fault => exact .interrupted fault
  | failure fault label pending pending' =>
    simp only [Verdict.ending, worded, hwords fault label pending rfl]
    cases words u fault label with
    | ok texts => exact .failed rfl
    | error complaint => exact .interrupted _

theorem Verdict.totalEffects_total (verdict : Verdict) (k : Counters) :
    (verdict.total k).totalEffects = k.totalEffects := by
  cases verdict <;> rfl

/-- What is the same corresponds, with equalities. -/
theorem Conduct.Same.corresponds {P P' : Conduct} (hp : P.Same P') : Corresponds Eq Eq P P' where
  forth := hp.forth
  back := by
    intro verdict k u h
    obtain ⟨verdict', k', _, h', hl, hk, rfl⟩ := hp.back h
    exact ⟨verdict', k', _, h', hl.mono Eq.symm, hk, rfl⟩

/-- **Runs end alike,** of two nodes from two worlds. -/
structure EndsAlike (h : Host) (settings : Settings) (R : World → World → Prop) (a b : Value × World) :
    Prop where
  forth {e k u} : Runs h settings a.1 a.2 e k u → ∃ e' k' w, Runs h settings b.1 b.2 e' k' w ∧
    e.Same e' ∧ k'.totalEffects = k.totalEffects ∧ R u w
  back {e' k' w} : Runs h settings b.1 b.2 e' k' w → ∃ e k u, Runs h settings a.1 a.2 e k u ∧
    e.Same e' ∧ k'.totalEffects = k.totalEffects ∧ R u w

/-- The words for what a node fails with are the same in all worlds that are related to that in which it
has failed. -/
def ToldTheSame (h : Host) (R : World → World → Prop) (node : Value) (w : World) : Prop :=
  ∀ ⦃fault label pending k u u'⦄, Evaluates h node w (.failure fault label pending) k u → R u u' →
    words u' fault label = words u fault label

section runs

variable {h : Host} {settings : Settings} (hp : settings.Plain) {c p : Value} {u w : World}
  {R : World → World → Prop}
include hp

/-- **Runs of nodes that correspond end alike.** -/
theorem Conduct.Corresponds.endsAlike (hcp : Corresponds Eq R (Evaluates h c u) (Evaluates h p w))
    (htold : ToldTheSame h R c u) : EndsAlike h settings R (c, u) (p, w) where
  forth hrun := by
    obtain ⟨verdict, k, he, rfl, rfl⟩ := (runs_iff hp).1 hrun
    obtain ⟨verdict', k', w', he', hl, hk, hw⟩ := hcp.forth he
    have hsame := hl.same_ending (fun _ _ _ hv => htold (hv ▸ he) hw) k k'
    refine ⟨_, _, w', he'.runs hp, hsame, ?_, hw⟩
    rw [Verdict.totalEffects_total, Verdict.totalEffects_total, hk]
  back hrun := by
    obtain ⟨verdict', k', he', rfl, rfl⟩ := (runs_iff hp).1 hrun
    obtain ⟨verdict, k, u', he, hl, hk, hw⟩ := hcp.back he'
    have hl : verdict.Like Eq verdict' := hl.symm
    have hsame := hl.same_ending (fun _ _ _ hv => htold (hv ▸ he) hw) k k'
    refine ⟨_, _, u', he.runs hp, hsame, ?_, hw⟩
    rw [Verdict.totalEffects_total, Verdict.totalEffects_total, ← hk]

end runs

/-! ### Conducts that concur -/

namespace Conduct

variable {P P' P'' : Conduct} {K K' : Value → World → Conduct}

/-- **A conduct echoes another:** whatever that comes to, it comes to as well, in the same world, after as
many actions, and under a label that stands for the other one. -/
def Echoes (P P' : Conduct) : Prop := ∀ ⦃verdict k u⦄, P verdict k u → ∃ verdict' k',
  P' verdict' k' u ∧ verdict.Agrees u verdict' ∧ k'.totalEffects = k.totalEffects

namespace Echoes

theorem trans (hp : P.Echoes P') (hp' : P'.Echoes P'') : P.Echoes P'' := by
  intro verdict k u h
  obtain ⟨verdict', k', h', ha, hk⟩ := hp h
  obtain ⟨verdict'', k'', h'', ha', hk'⟩ := hp' h'
  exact ⟨verdict'', k'', h'', ha.trans ha', hk'.trans hk⟩

theorem of_mirrors (hp : Mirrors Eq Eq P P') : P.Echoes P' := by
  intro verdict k u h
  obtain ⟨verdict', k', _, h', hl, hk, rfl⟩ := hp h
  exact ⟨verdict', k', h', hl.agrees u, hk⟩

/-- What echoes in both parts echoes as a chain. -/
theorem chain (hp : P.Echoes P') (hk : ∀ v u, (K v u).Echoes (K' v u)) :
    (Chain P K).Echoes (Chain P' K') := by
  intro verdict k u h
  cases h with
  | next hfirst hrest =>
    obtain ⟨_, m', hfirst', ha, hm⟩ := hp hfirst
    cases ha with
    | value =>
      obtain ⟨verdict', n', hrest', ha', hn⟩ := hk _ _ hrest
      refine ⟨verdict', _, .next hfirst' hrest', ha', ?_⟩
      simp only [Counters.chained, hm, hn]
  | stop hfirst hstop hout =>
    obtain ⟨verdict', m', hfirst', ha, hm⟩ := hp hfirst
    exact ⟨_, _, .stop hfirst' (ha.isValue_eq.trans hstop) rfl, hout ▸ ha.outward, hm⟩

end Echoes

/-- **Conducts concur** if each echoes the other. -/
structure Concur (P P' : Conduct) : Prop where
  forth : P.Echoes P'
  back : P'.Echoes P

namespace Concur

theorem trans (hp : P.Concur P') (hp' : P'.Concur P'') : P.Concur P'' :=
  ⟨hp.forth.trans hp'.forth, hp'.back.trans hp.back⟩

theorem chain (hp : P.Concur P') (hk : ∀ v u, (K v u).Concur (K' v u)) :
    (Chain P K).Concur (Chain P' K') :=
  ⟨hp.forth.chain fun v u => (hk v u).forth, hp.back.chain fun v u => (hk v u).back⟩

end Concur

theorem Same.concur (hp : P.Same P') : P.Concur P' := ⟨.of_mirrors hp.forth, .of_mirrors hp.back⟩

end Conduct

/-- Verdicts that cannot be told apart end runs in the same way. -/
theorem Verdict.Agrees.same_ending {verdict verdict' : Verdict} {u : World}
    (ha : verdict.Agrees u verdict') (k k' : Counters) :
    (verdict.ending u k).Same (verdict'.ending u k') := by
  cases ha with
  | value v => exact .finished v
  | unknown typeName pending pending' => exact .aborted _
  | interrupt fault => exact .interrupted fault
  | failure fault pending pending' hlabel =>
    simp only [Verdict.ending]
    rcases worded_kin World.kinship_alike (.refl u) hlabel fault k.totalSteps k'.totalSteps pending
        pending' with
      ⟨f, f', hf, hf', hcause, hcause'⟩ | ⟨c, hf, hf'⟩
    · rw [hf, hf']
      exact .failed (hcause'.trans hcause.symm)
    · rw [hf, hf']
      exact .interrupted _

/-- **Runs of nodes that concur** end alike, in the same world. -/
theorem Conduct.Concur.endsAlike {h : Host} {settings : Settings} (hp : settings.Plain) {c p : Value}
    {u w : World} (hcp : Concur (Evaluates h c u) (Evaluates h p w)) :
    EndsAlike h settings Eq (c, u) (p, w) where
  forth hrun := by
    obtain ⟨verdict, k, he, rfl, rfl⟩ := (runs_iff hp).1 hrun
    obtain ⟨verdict', k', he', ha, hk⟩ := hcp.forth he
    refine ⟨_, _, _, he'.runs hp, ha.same_ending k k', ?_, rfl⟩
    rw [Verdict.totalEffects_total, Verdict.totalEffects_total, hk]
  back hrun := by
    obtain ⟨verdict', k', he', rfl, rfl⟩ := (runs_iff hp).1 hrun
    obtain ⟨verdict, k, he, ha, hk⟩ := hcp.back he'
    refine ⟨_, _, _, he.runs hp, ha.symm.same_ending k k', ?_, rfl⟩
    rw [Verdict.totalEffects_total, Verdict.totalEffects_total, hk]

end EffectGraph
