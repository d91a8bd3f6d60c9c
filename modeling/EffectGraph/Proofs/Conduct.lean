import EffectGraph.Proofs.Kinship

/-!
# Conducts

The conduct of a program from a world is what it can come to: verdicts, costs and worlds.  The conduct
of a sequence or of a guarded node is made of the conducts of its parts (`Conduct.Chain`,
`Conduct.Guard`).  One conduct refines another if whatever it comes to the other comes to as well, up to
what cannot be told apart: the label under which a failure is reported, how many continuations waited
for it, the cost except for the actions, and the messages in the journal.
-/

namespace EffectGraph

open Machine

/-! ### Recoveries -/

namespace Machine

variable {w w' : World} {label label' : Value}

/-- **Recoveries are noted, or refused, alike** under labels that stand for each other. -/
theorem agree_recoveryNote (hw : w.Alike w') (hl : w.Tells label label') (fault : Fault Value)
    (dropped dropped' : Nat) :
    Eff.Agree Eq (recoveryNote fault label dropped w) (recoveryNote fault label' dropped' w') :=
  Eff.agree_iff_together.mpr
    (together_recoveryNote World.kinship_alike hw hl fault dropped dropped')

variable {w₁ : World} {fault : Fault Value} {dropped : Nat} (hw : w.Alike w')
  (hl : w.Tells label label')
include hw hl

theorem exists_recoveryNote_of_ok (hnote : recoveryNote fault label dropped w = .ok () w₁)
    (dropped' : Nat) :
    ∃ w₁', recoveryNote fault label' dropped' w' = .ok () w₁' ∧ w₁.Alike w₁' := by
  have hnotes := agree_recoveryNote hw hl fault dropped dropped'
  rw [hnote] at hnotes
  obtain ⟨_, w₁', hnote', -, hw₁⟩ := hnotes.exists_of_ok
  exact ⟨w₁', hnote', hw₁⟩

theorem exists_recoveryNote_of_error {signal : Signal}
    (hnote : recoveryNote fault label dropped w = .error signal w₁) (dropped' : Nat) :
    ∃ w₁', recoveryNote fault label' dropped' w' = .error signal w₁' ∧ w₁.Alike w₁' := by
  have hnotes := agree_recoveryNote hw hl fault dropped dropped'
  rw [hnote] at hnotes
  exact hnotes.exists_of_error

end Machine

/-! ### Conducts -/

@[simp]
theorem Verdict.isValue_outward (verdict : Verdict) : verdict.outward.isValue = verdict.isValue := by
  cases verdict <;> rfl

@[simp]
theorem Verdict.escapes_outward (verdict : Verdict) : verdict.outward.escapes = verdict.escapes := by
  cases verdict <;> rfl

/-- Whatever passes a guarded region still passes the next one. -/
theorem Verdict.escapes_of_eq_outward {verdict verdict' : Verdict} (hout : verdict' = verdict.outward)
    (hpass : verdict.escapes = true) : verdict'.escapes = true := by
  rw [hout, escapes_outward, hpass]

theorem Verdict.isValue_of_escapes {verdict : Verdict} (hpass : verdict.escapes = true) :
    verdict.isValue = false := by
  cases verdict with
  | value v => cases hpass
  | _ => rfl

/-- What is a failure from outside of a frame is one inside. -/
theorem Verdict.exists_of_failure_eq_outward {verdict : Verdict} {fault : Fault Value} {label : Value}
    {pending : Nat} (hout : .failure fault label pending = verdict.outward) :
    ∃ inside, verdict = .failure fault label inside ∧ pending = inside + 1 := by
  cases verdict with
  | failure _ _ inside =>
    cases hout
    exact ⟨inside, rfl, rfl⟩
  | _ => cases hout

/-- What stops a chain still stops the next one. -/
theorem Verdict.isValue_of_eq_outward {verdict verdict' : Verdict} (hout : verdict' = verdict.outward)
    (hstop : verdict.isValue = false) : verdict'.isValue = false := by
  rw [hout, isValue_outward, hstop]

/-- Verdicts that cannot be told apart in a world. -/
inductive Verdict.Agrees (w : World) : Verdict → Verdict → Prop where
  | value (v : Value) : Agrees w (.value v) (.value v)
  | failure {label label' : Value} (fault : Fault Value) (pending pending' : Nat)
      (hlabel : w.Tells label label') :
      Agrees w (.failure fault label pending) (.failure fault label' pending')
  | unknown (typeName : String) (pending pending' : Nat) :
      Agrees w (.unknown typeName pending) (.unknown typeName pending')
  | interrupt (fault : Fault Value) : Agrees w (.interrupt fault) (.interrupt fault)

namespace Verdict.Agrees

variable {w w' : World} {verdict verdict' verdict'' : Verdict}

theorem refl (w : World) (verdict : Verdict) : verdict.Agrees w verdict := by
  cases verdict with
  | value v => exact .value v
  | failure fault label pending => exact .failure fault pending pending (.inl rfl)
  | unknown typeName pending => exact .unknown typeName pending pending
  | interrupt fault => exact .interrupt fault

theorem symm (ha : verdict.Agrees w verdict') : verdict'.Agrees w verdict := by
  cases ha with
  | value v => exact .value v
  | failure fault pending pending' hlabel => exact .failure fault pending' pending hlabel.symm
  | unknown typeName pending pending' => exact .unknown typeName pending' pending
  | interrupt fault => exact .interrupt fault

theorem trans (ha : verdict.Agrees w verdict') (ha' : verdict'.Agrees w verdict'') :
    verdict.Agrees w verdict'' := by
  cases ha with
  | value v => exact ha'
  | failure fault pending _ hlabel =>
    cases ha' with
    | failure _ _ pending'' hlabel' => exact .failure fault pending pending'' (hlabel.trans hlabel')
  | unknown typeName pending _ =>
    cases ha' with
    | unknown _ _ pending'' => exact .unknown typeName pending pending''
  | interrupt fault => exact ha'

theorem kin {R : World → World → Prop} (hR : World.Kinship R) (ha : verdict.Agrees w verdict')
    (hw : R w w') : verdict.Agrees w' verdict' := by
  cases ha with
  | value v => exact .value v
  | failure fault pending pending' hlabel => exact .failure fault pending pending' (hlabel.kin hR hw)
  | unknown typeName pending pending' => exact .unknown typeName pending pending'
  | interrupt fault => exact .interrupt fault

theorem alike (ha : verdict.Agrees w verdict') (hw : w.Alike w') : verdict.Agrees w' verdict' :=
  ha.kin World.kinship_alike hw

theorem outward (ha : verdict.Agrees w verdict') : verdict.outward.Agrees w verdict'.outward := by
  cases ha with
  | value v => exact .value v
  | failure fault pending pending' hlabel => exact .failure fault _ _ hlabel
  | unknown typeName pending pending' => exact .unknown typeName _ _
  | interrupt fault => exact .interrupt fault

/-- Seen from outside of a frame, a verdict differs in no more than what waited. -/
theorem to_outward (w : World) {verdict : Verdict} (hstop : verdict.isValue = false) :
    verdict.Agrees w verdict.outward := by
  cases verdict with
  | value v => cases hstop
  | failure fault label pending => exact .failure fault _ _ (.inl rfl)
  | unknown typeName pending => exact .unknown typeName _ _
  | interrupt fault => exact .interrupt fault

theorem from_outward (w : World) {verdict : Verdict} (hstop : verdict.isValue = false) :
    verdict.outward.Agrees w verdict := (to_outward w hstop).symm

theorem isValue_eq (ha : verdict.Agrees w verdict') : verdict'.isValue = verdict.isValue := by
  cases ha <;> rfl

theorem escapes_eq (ha : verdict.Agrees w verdict') : verdict'.escapes = verdict.escapes := by
  cases ha <;> rfl

end Verdict.Agrees

/-- What something comes to: verdicts, costs and worlds. -/
abbrev Conduct := Verdict → Counters → World → Prop

namespace Conduct

variable {P P' P'' : Conduct} {K K' : Value → World → Conduct} {H H' : Fault Value → World → Conduct}

theorem ext (hp : ∀ verdict k u, P verdict k u ↔ P' verdict k u) : P = P' :=
  funext fun verdict => funext fun k => funext fun u => propext (hp verdict k u)

/-- The conduct that comes to one verdict at once. -/
def Just (verdict : Verdict) (w : World) : Conduct := fun verdict' k u =>
  verdict' = verdict ∧ k = .zero ∧ u = w

/-- A conduct comes to something, up to what cannot be told apart. -/
def Attains (P : Conduct) (verdict : Verdict) (k : Counters) (u : World) : Prop :=
  ∃ verdict' k' u', P verdict' k' u' ∧ verdict.Agrees u verdict' ∧
    k'.totalEffects = k.totalEffects ∧ u.Alike u'

theorem attains_of_agrees {verdict verdict' : Verdict} {k k' : Counters} {u : World}
    (hp : P verdict' k' u) (ha : verdict.Agrees u verdict') (hk : k'.totalEffects = k.totalEffects) :
    P.Attains verdict k u := ⟨verdict', k', u, hp, ha, hk, .refl u⟩

theorem attains_of_alike {verdict : Verdict} {k k' : Counters} {u u' : World} (hp : P verdict k' u')
    (hu : u.Alike u') (hk : k'.totalEffects = k.totalEffects) : P.Attains verdict k u :=
  ⟨verdict, k', u', hp, .refl u verdict, hk, hu⟩

theorem attains_of_cost {verdict : Verdict} {k k' : Counters} {u : World} (hp : P verdict k' u)
    (hk : k'.totalEffects = k.totalEffects) : P.Attains verdict k u :=
  attains_of_agrees hp (.refl u verdict) hk

/-- **One conduct refines another:** whatever it comes to, the other one comes to as well. -/
def Refines (P P' : Conduct) : Prop := ∀ ⦃verdict k u⦄, P verdict k u → P'.Attains verdict k u

/-- What follows a value is the rest; nothing follows any other verdict. -/
inductive Chain (P : Conduct) (K : Value → World → Conduct) : Conduct where
  | next {v verdict m n w u} (hp : P (.value v) m w) (hk : K v w verdict n u) :
      Chain P K verdict (m.chained n) u
  | stop {verdict verdict' m u} (hp : P verdict m u) (hstop : verdict.isValue = false)
      (hout : verdict' = verdict.outward) : Chain P K verdict' m.framed u

/-- What follows a failure is the rescue, once that is noted; nothing follows any other verdict. -/
inductive Guard (P : Conduct) (H : Fault Value → World → Conduct) : Conduct where
  | value {v m u} (hp : P (.value v) m u) : Guard P H (.value v) m.framed.stepped u
  | rescue {fault label pending verdict m n w w' u} (hp : P (.failure fault label pending) m w)
      (hnote : recoveryNote fault label pending w = .ok () w') (hh : H fault w' verdict n u) :
      Guard P H verdict (m.rescued pending n) u
  | refused {fault label pending refusal m w u} (hp : P (.failure fault label pending) m w)
      (hnote : recoveryNote fault label pending w = .error (.raised refusal) u) :
      Guard P H (.interrupt refusal) m.framed u
  | pass {verdict verdict' m u} (hp : P verdict m u) (hpass : verdict.escapes = true)
      (hout : verdict' = verdict.outward) : Guard P H verdict' m.framed u

namespace Refines

theorem refl (P : Conduct) : P.Refines P := fun _ _ _ hp => attains_of_cost hp rfl

theorem trans (hp : P.Refines P') (hp' : P'.Refines P'') : P.Refines P'' := by
  intro verdict k u h
  obtain ⟨verdict', k', u', h', ha, hk, hu⟩ := hp h
  obtain ⟨verdict'', k'', u'', h'', ha', hk', hu'⟩ := hp' h'
  exact ⟨verdict'', k'', u'', h'', ha.trans (ha'.alike hu.symm), hk'.trans hk, hu.trans hu'⟩

/-- What refines in both parts, after the values that the first parts come to, refines as a chain. -/
theorem chain (hp : P.Refines P')
    (hk : ∀ {v m m' w w'}, P (.value v) m w → P' (.value v) m' w' → w.Alike w' →
      (K v w).Refines (K' v w')) : (Chain P K).Refines (Chain P' K') := by
  intro verdict k u h
  cases h with
  | next hfirst hrest =>
    obtain ⟨_, m', w', hfirst', ha, hm, hw⟩ := hp hfirst
    cases ha with
    | value =>
      obtain ⟨verdict', n', u', hrest', ha', hn, hu⟩ := hk hfirst hfirst' hw hrest
      refine ⟨verdict', _, u', .next hfirst' hrest', ha', ?_, hu⟩
      simp only [Counters.chained, hm, hn]
  | stop hfirst hstop hout =>
    obtain ⟨verdict', m', u', hfirst', ha, hm, hu⟩ := hp hfirst
    exact ⟨_, _, u', .stop hfirst' (ha.isValue_eq.trans hstop) rfl, hout ▸ ha.outward, hm, hu⟩

/-- What refines in both parts refines as a guarded conduct. -/
theorem guard (hp : P.Refines P')
    (hh : ∀ fault w w', w.Alike w' → (H fault w).Refines (H' fault w')) :
    (Guard P H).Refines (Guard P' H') := by
  intro verdict k u h
  cases h with
  | value hfirst =>
    obtain ⟨_, m', u', hfirst', ha, hm, hu⟩ := hp hfirst
    cases ha with
    | value => exact attains_of_alike (.value hfirst') hu hm
  | rescue hfirst hnote hrest =>
    obtain ⟨_, m', w', hfirst', ha, hm, hw⟩ := hp hfirst
    cases ha with
    | failure _ _ _ hlabel =>
      obtain ⟨w'', hnote', hw'⟩ := exists_recoveryNote_of_ok hw hlabel hnote _
      obtain ⟨verdict', n', u', hrest', ha', hn, hu⟩ := hh _ _ w'' hw' hrest
      refine ⟨verdict', _, u', .rescue hfirst' hnote' hrest', ha', ?_, hu⟩
      simp only [Counters.rescued, hm, hn]
  | refused hfirst hnote =>
    obtain ⟨_, m', w', hfirst', ha, hm, hw⟩ := hp hfirst
    cases ha with
    | failure _ _ _ hlabel =>
      obtain ⟨u', hnote', hu⟩ := exists_recoveryNote_of_error hw hlabel hnote _
      exact attains_of_alike (.refused hfirst' hnote') hu hm
  | pass hfirst hpass hout =>
    obtain ⟨verdict', m', u', hfirst', ha, hm, hu⟩ := hp hfirst
    exact ⟨_, _, u', .pass hfirst' (ha.escapes_eq.trans hpass) rfl, hout ▸ ha.outward, hm, hu⟩

end Refines

/-- **Conducts match** if they refine each other. -/
structure Matches (P P' : Conduct) : Prop where
  refines : P.Refines P'
  refined : P'.Refines P

namespace Matches

theorem refl (P : Conduct) : P.Matches P := ⟨.refl P, .refl P⟩

theorem symm (hp : P.Matches P') : P'.Matches P := ⟨hp.refined, hp.refines⟩

theorem trans (hp : P.Matches P') (hp' : P'.Matches P'') : P.Matches P'' :=
  ⟨hp.refines.trans hp'.refines, hp'.refined.trans hp.refined⟩

/-- What matches in both parts, after the values that the first parts come to, matches as a chain. -/
theorem chain (hp : P.Matches P')
    (hk : ∀ {v m m' w w'}, P (.value v) m w → P' (.value v) m' w' → w.Alike w' →
      (K v w).Matches (K' v w')) : (Chain P K).Matches (Chain P' K') where
  refines := hp.refines.chain fun hv hv' hw => (hk hv hv' hw).refines
  refined := hp.refined.chain fun hv hv' hw => (hk hv' hv hw.symm).refined

/-- What matches in both parts matches as a guarded conduct. -/
theorem guard (hp : P.Matches P')
    (hh : ∀ fault w w', w.Alike w' → (H fault w).Matches (H' fault w')) :
    (Guard P H).Matches (Guard P' H') where
  refines := hp.refines.guard fun fault w w' hw => (hh fault w w' hw).refines
  refined := hp.refined.guard fun fault w w' hw => (hh fault w' w hw.symm).refined

/-- Verdicts that cannot be told apart make conducts that match. -/
theorem just {w w' : World} {verdict verdict' : Verdict} (ha : verdict.Agrees w verdict')
    (hw : w.Alike w') : (Just verdict w).Matches (Just verdict' w') where
  refines := by
    rintro _ _ _ ⟨rfl, rfl, rfl⟩
    exact ⟨verdict', .zero, w', ⟨rfl, rfl, rfl⟩, ha, rfl, hw⟩
  refined := by
    rintro _ _ _ ⟨rfl, rfl, rfl⟩
    exact ⟨verdict, .zero, w, ⟨rfl, rfl, rfl⟩, ha.symm.alike hw, rfl, hw.symm⟩

end Matches
end Conduct
end EffectGraph
