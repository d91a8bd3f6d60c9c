import EffectGraph.Proofs.Correspondence
import EffectGraph.Proofs.Parallel
import EffectGraph.Proofs.Rounds

/-!
# Loops in lockstep

Two loops may run parts that are not the same, from worlds that are not the same.  They keep step
(`Loop.KeepsStep`) if after values that go together they go on to rounds that stand beside each other
(`Round.Beside`): both are over, or both run a part, and the parts correspond.  Then going through the
one is going through the other, round by round, so the nodes of the loops correspond
(`Loop.corresponds`).
-/

namespace EffectGraph

open Machine Conduct

/-- Results that go together do so the other way round. -/
theorem Together.symm {α β : Type} {T : α → β → Prop} {T' : β → α → Prop} {R : World → World → Prop}
    {x : EStateM.Result Signal World α} {y : EStateM.Result Signal World β} (hxy : Together T R x y)
    (hT : ∀ {a b}, T a b → T' b a) : Together T' (flip R) y x := by
  cases hxy with
  | ok hab hw => exact .ok (hT hab) hw
  | error signal hw => exact .error signal hw

/-- Mishaps are like themselves. -/
theorem Verdict.Like.ofMishap {T : Value → Value → Prop} (mis : Mishap) :
    (Verdict.ofMishap mis).Like T (.ofMishap mis) := by
  unfold Verdict.ofMishap
  split
  · exact .failure _ _ _ _
  · exact .interrupt _

theorem Conduct.Corresponds.symm {T : Value → Value → Prop} {R : World → World → Prop} {P P' : Conduct}
    (hp : Corresponds T R P P') : Corresponds (flip T) (flip R) P' P := ⟨hp.back, hp.forth⟩

theorem Conduct.Same.of_eq {P P' : Conduct} (hp : P = P') : P.Same P' := hp ▸ .refl P

/-- **Rounds stand beside each other:** both are over, with results that go together, or the parts that
they run correspond in all worlds that are related. -/
inductive Round.Beside (h : Host) (T Q : Value → Value → Prop) {σ σ' : Type} (S : σ → σ' → Prop)
    (R : World → World → Prop) : Round σ → Round σ' → Prop where
  | ended (hT : T .none .none) : Beside h T Q S R .ended .ended
  | finish {v v'} (hv : T v v') : Beside h T Q S R (.finish v) (.finish v')
  | run {part part' s s'} (hs : S s s')
      (hpart : ∀ {u w}, R u w → Corresponds Q R (Evaluates h part u) (Evaluates h part' w)) :
      Beside h T Q S R (.run part s) (.run part' s')

theorem Round.Beside.symm {h : Host} {T Q : Value → Value → Prop} {σ σ' : Type} {S : σ → σ' → Prop}
    {R : World → World → Prop} {r : Round σ} {r' : Round σ'} (hr : r.Beside h T Q S R r') :
    r'.Beside h (flip T) (flip Q) (flip S) (flip R) r := by
  cases hr with
  | ended hT => exact .ended hT
  | finish hv => exact .finish hv
  | run hs hpart => exact .run hs fun hw => (hpart hw).symm

namespace Loop

section rounds

variable {h : Host} {L : Loop h} {r : Round L.State} {s : L.State} {v : Value} {w w' : World}

/-- A loop that has started is at its first round. -/
theorem same_node (hstart : L.start w = .ok r w') (i j : Nat) :
    Same (Evaluates h (L.node i j) w) (Evaluates h (r.node L.onward) w') := by
  have hinvoke : h.invoke (L.starter j) [.none] w = .ok (r.node L.onward) w' := by
    rw [invoke_starter, Eff.map_of_ok hstart]
  have hcalled : Called h (L.starter j) .none w = Evaluates h (r.node L.onward) w' :=
    called_of_node hinvoke (r.isNode_node L.onward)
  rw [node, evaluates_flatMap, Value.unit, evaluates_done, ← hcalled]
  exact same_chain_just_value .none w (Called h (L.starter j))

/-- Which of its nodes it is does not matter then. -/
theorem same_nodes (hstart : L.start w = .ok r w') (i j i' j' : Nat) :
    Same (Evaluates h (L.node i j) w) (Evaluates h (L.node i' j') w) :=
  (same_node hstart i j).trans (same_node hstart i' j').symm

/-- After the value of a part it is at the next one. -/
theorem called_onward (hnext : L.next s v w = .ok r w') :
    Called h (.ofCallback (L.onward s)) v w = Evaluates h (r.node L.onward) w' := by
  have hinvoke : h.invoke (.ofCallback (L.onward s)) [v] w = .ok (r.node L.onward) w' := by
    rw [invoke_onward, Eff.map_of_ok hnext]
  exact called_of_node hinvoke (r.isNode_node L.onward)

/-- A part is run, and then the loop goes on. -/
theorem evaluates_run (part : Value) (s : L.State) (w : World) :
    Evaluates h ((Round.run part s).node L.onward) w =
      Chain (Evaluates h part w) (Called h (.ofCallback (L.onward s))) :=
  evaluates_flatMap h 0 part (.ofCallback (L.onward s)) w

/-- A loop that has started with a part runs it first. -/
theorem same_run {part : Value} (hstart : L.start w = .ok (.run part s) w') (i j : Nat) :
    Same (Evaluates h (L.node i j) w)
      (Chain (Evaluates h part w') (Called h (.ofCallback (L.onward s)))) :=
  (same_node hstart i j).trans (.of_eq (evaluates_run part s w'))

/-- A loop that is over has nothing to give. -/
theorem evaluates_ended (L : Loop h) (w : World) :
    Evaluates h (Round.node L.onward .ended) w = Just (.value .none) w :=
  (evaluates_done h _ .none w : Evaluates h .unit w = _)

end rounds

variable {h : Host} {L L' : Loop h} {T Q : Value → Value → Prop} {S : L.State → L'.State → Prop}
  {R : World → World → Prop} {u u' w : World}

/-- **Two loops keep step:** after values that go together they go on side by side, and the callbacks
that do so have the same names. -/
structure KeepsStep (L L' : Loop h) (T Q : Value → Value → Prop) (S : L.State → L'.State → Prop)
    (R : World → World → Prop) : Prop where
  nexts {s s' v v' u w} : S s s' → Q v v' → R u w →
    Together (Round.Beside h T Q S R) R (L.next s v u) (L'.next s' v' w)
  named {s s' u w} : S s s' → R u w →
    w.callableName (.ofCallback (L'.onward s')) = u.callableName (.ofCallback (L.onward s))

/-- **Two loops start in step,** from two worlds. -/
structure StartsInStep (L L' : Loop h) (T Q : Value → Value → Prop) (S : L.State → L'.State → Prop)
    (R : World → World → Prop) (j j' : Nat) (u w : World) : Prop where
  starts : Together (Round.Beside h T Q S R) R (L.start u) (L'.start w)
  named {u' w'} : R u' w' → w'.callableName (L'.starter j') = u'.callableName (L.starter j)

theorem KeepsStep.symm (hk : L.KeepsStep L' T Q S R) :
    L'.KeepsStep L (flip T) (flip Q) (flip S) (flip R) where
  nexts hs hv hw := (hk.nexts hs hv hw).symm Round.Beside.symm
  named hs hw := (hk.named hs hw).symm

theorem StartsInStep.symm {j j' : Nat} (hstart : L.StartsInStep L' T Q S R j j' u w) :
    L'.StartsInStep L (flip T) (flip Q) (flip S) (flip R) j' j w u where
  starts := hstart.starts.symm Round.Beside.symm
  named hw := (hstart.named hw).symm

/-- **Going through the one loop is going through the other.**  The induction is on the rounds that the
first goes through. -/
theorem Goes.exists_beside (hk : L.KeepsStep L' T Q S R) {r : Round L.State} {r' : Round L'.State}
    {parts : List Part} {verdict : Verdict} {k : Counters} (hg : L.Goes r u parts verdict k u')
    (hr : r.Beside h T Q S R r') (hw : R u w) :
    ∃ parts' verdict' k' w', L'.Goes r' w parts' verdict' k' w' ∧ verdict.Like T verdict' ∧
      k'.totalEffects = k.totalEffects ∧ R u' w' := by
  induction hg generalizing r' w with
  | ended =>
    cases hr with
    | ended hT => exact ⟨[], _, _, w, .ended, .value hT, rfl, hw⟩
  | finish =>
    cases hr with
    | finish hv => exact ⟨[], _, _, w, .finish, .value hv, rfl, hw⟩
  | stopped hpart hstop =>
    cases hr with
    | run hs hparts =>
      obtain ⟨verdict', m', w₁, hpart', hl, hm, hw₁⟩ := (hparts hw).forth hpart
      have hstop' := hl.isValue_eq.trans hstop
      exact ⟨_, _, _, w₁, .stopped hpart' hstop', hl.outward hstop, hm, hw₁⟩
  | raised hpart hnext =>
    cases hr with
    | run hs hparts =>
      obtain ⟨_, m', w₁, hpart', hl, hm, hw₁⟩ := (hparts hw).forth hpart
      cases hl with
      | value hv =>
        have hnexts := hk.nexts hs hv hw₁
        rw [hnext] at hnexts
        obtain ⟨w₂, hnext', hw₂⟩ := hnexts.exists_of_error
        have hgoes := Goes.raised hpart' hnext'
        rw [hk.named hs hw₂] at hgoes
        refine ⟨_, _, _, w₂, hgoes, .ofMishap _, ?_, hw₂⟩
        simp only [Counters.chained, hm]
  | round hpart hnext _ ih =>
    cases hr with
    | run hs hparts =>
      obtain ⟨_, m', w₁, hpart', hl, hm, hw₁⟩ := (hparts hw).forth hpart
      cases hl with
      | value hv =>
        have hnexts := hk.nexts hs hv hw₁
        rw [hnext] at hnexts
        obtain ⟨r'', w₂, hnext', hr', hw₂⟩ := hnexts.exists_of_ok
        obtain ⟨parts', verdict', n', w₃, hrest, hl', hn, hw₃⟩ := ih hr' hw₂
        refine ⟨_, _, _, w₃, .round hpart' hnext' hrest, hl', ?_, hw₃⟩
        simp only [Counters.chained, hm, hn]

/-- **The node of the one loop mirrors that of the other.** -/
theorem mirrors (hk : L.KeepsStep L' T Q S R) {j j' : Nat} (hstart : L.StartsInStep L' T Q S R j j' u w)
    (i i' : Nat) : Mirrors T R (Evaluates h (L.node i j) u) (Evaluates h (L'.node i' j') w) := by
  intro verdict k u' he
  obtain ⟨parts, hu⟩ := evaluates_node_iff.1 he
  have hstarts := hstart.starts
  cases hu with
  | raised hfault =>
    rw [hfault] at hstarts
    obtain ⟨w', hfault', hw'⟩ := hstarts.exists_of_error
    have hunrolls := Unrolls.raised (j := j') hfault'
    rw [hstart.named hw'] at hunrolls
    exact ⟨_, _, w', evaluates_node_iff.2 ⟨_, hunrolls⟩, .ofMishap _, rfl, hw'⟩
  | started hfirst hrest =>
    rw [hfirst] at hstarts
    obtain ⟨r', w₁, hfirst', hr, hw₁⟩ := hstarts.exists_of_ok
    obtain ⟨parts', verdict', k', w', hrest', hl, hk, hw'⟩ := hrest.exists_beside hk hr hw₁
    refine ⟨_, _, w', evaluates_node_iff.2 ⟨_, .started hfirst' hrest'⟩, hl, ?_, hw'⟩
    simp only [Counters.chained, hk]

/-- **The nodes of loops that start in step and keep it correspond.** -/
theorem corresponds (hk : L.KeepsStep L' T Q S R) {j j' : Nat}
    (hstart : L.StartsInStep L' T Q S R j j' u w) (i i' : Nat) :
    Corresponds T R (Evaluates h (L.node i j) u) (Evaluates h (L'.node i' j') w) where
  forth := mirrors hk hstart i i'
  back := mirrors hk.symm hstart.symm i' i

end Loop
end EffectGraph
