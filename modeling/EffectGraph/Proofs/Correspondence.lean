import EffectGraph.Proofs.Conduct

/-!
# Conducts that correspond

Programs may also be run from worlds that are not the same.  Whatever one of two conducts comes to, the
other mirrors (`Conduct.Mirrors T R`) if it comes to something like it: to a value in the relation `T`
to its value, or to the same failure, refusal or interrupt, whatever waited for it, with the same number
of actions and in a world in the relation `R` to its world.  Conducts correspond if each mirrors the
other.

With equalities for both relations, conducts that correspond come to the same but for the frames that
wait and for the cost.  The laws of chains hold in this sense.
-/

namespace EffectGraph

open Machine

/-- **Verdicts that are like each other:** related values, or the same stop, whatever waited for it. -/
inductive Verdict.Like (T : Value → Value → Prop) : Verdict → Verdict → Prop where
  | value {v v' : Value} (hv : T v v') : Like T (.value v) (.value v')
  | failure (fault : Fault Value) (label : Value) (pending pending' : Nat) :
      Like T (.failure fault label pending) (.failure fault label pending')
  | unknown (typeName : String) (pending pending' : Nat) :
      Like T (.unknown typeName pending) (.unknown typeName pending')
  | interrupt (fault : Fault Value) : Like T (.interrupt fault) (.interrupt fault)

namespace Verdict.Like

variable {T T' T'' : Value → Value → Prop} {verdict verdict' verdict'' : Verdict}

theorem refl (verdict : Verdict) : verdict.Like Eq verdict := by
  cases verdict with
  | value v => exact .value rfl
  | failure fault label pending => exact .failure fault label pending pending
  | unknown typeName pending => exact .unknown typeName pending pending
  | interrupt fault => exact .interrupt fault

theorem symm (hl : verdict.Like T verdict') : verdict'.Like (flip T) verdict := by
  cases hl with
  | value hv => exact .value hv
  | failure fault label pending pending' => exact .failure fault label pending' pending
  | unknown typeName pending pending' => exact .unknown typeName pending' pending
  | interrupt fault => exact .interrupt fault

theorem trans (hl : verdict.Like T verdict') (hl' : verdict'.Like T' verdict'')
    (hT : ∀ {a b c}, T a b → T' b c → T'' a c) : verdict.Like T'' verdict'' := by
  cases hl with
  | value hv =>
    cases hl' with
    | value hv' => exact .value (hT hv hv')
  | failure fault label pending _ =>
    cases hl' with
    | failure _ _ _ pending'' => exact .failure fault label pending pending''
  | unknown typeName pending _ =>
    cases hl' with
    | unknown _ _ pending'' => exact .unknown typeName pending pending''
  | interrupt fault =>
    cases hl' with
    | interrupt => exact .interrupt fault

theorem mono (hl : verdict.Like T verdict') (hT : ∀ {v v'}, T v v' → T' v v') :
    verdict.Like T' verdict' := by
  cases hl with
  | value hv => exact .value (hT hv)
  | failure fault label pending pending' => exact .failure fault label pending pending'
  | unknown typeName pending pending' => exact .unknown typeName pending pending'
  | interrupt fault => exact .interrupt fault

theorem isValue_eq (hl : verdict.Like T verdict') : verdict'.isValue = verdict.isValue := by
  cases hl <;> rfl

/-- What stops is seen alike from outside of a frame, and how values are related does not matter. -/
theorem outward (hl : verdict.Like T verdict') (hstop : verdict.isValue = false) :
    verdict.outward.Like T' verdict'.outward := by
  cases hl with
  | value hv => cases hstop
  | failure fault label pending pending' => exact .failure fault label _ _
  | unknown typeName pending pending' => exact .unknown typeName _ _
  | interrupt fault => exact .interrupt fault

theorem to_outward (hstop : verdict.isValue = false) : verdict.Like T verdict.outward := by
  cases verdict with
  | value v => cases hstop
  | failure fault label pending => exact .failure fault label _ _
  | unknown typeName pending => exact .unknown typeName _ _
  | interrupt fault => exact .interrupt fault

theorem from_outward (hstop : verdict.isValue = false) : verdict.outward.Like T verdict :=
  (to_outward (T := flip T) hstop).symm

/-- Verdicts with the same values cannot be told apart. -/
theorem agrees (hl : verdict.Like Eq verdict') (w : World) : verdict.Agrees w verdict' := by
  cases hl with
  | value hv => exact hv ▸ .value _
  | failure fault label pending pending' => exact .failure fault pending pending' (.inl rfl)
  | unknown typeName pending pending' => exact .unknown typeName pending pending'
  | interrupt fault => exact .interrupt fault

end Verdict.Like

namespace Conduct

variable {T T' : Value → Value → Prop} {R R' : World → World → Prop} {P P' P'' : Conduct}
  {K K' L : Value → World → Conduct}

/-- A conduct comes to something like this, with as many actions. -/
def Shows (T : Value → Value → Prop) (R : World → World → Prop) (P : Conduct) (verdict : Verdict)
    (k : Counters) (u : World) : Prop :=
  ∃ verdict' k' u', P verdict' k' u' ∧ verdict.Like T verdict' ∧ k'.totalEffects = k.totalEffects ∧
    R u u'

theorem shows_of_like {verdict verdict' : Verdict} {k k' : Counters} {u : World}
    (hp : P verdict' k' u) (hl : verdict.Like Eq verdict') (hk : k'.totalEffects = k.totalEffects) :
    P.Shows Eq Eq verdict k u := ⟨verdict', k', u, hp, hl, hk, rfl⟩

theorem shows_of_cost {verdict : Verdict} {k k' : Counters} {u : World} (hp : P verdict k' u)
    (hk : k'.totalEffects = k.totalEffects) : P.Shows Eq Eq verdict k u :=
  shows_of_like hp (.refl verdict) hk

/-- **A conduct mirrors another:** whatever that comes to, it comes to something like it. -/
def Mirrors (T : Value → Value → Prop) (R : World → World → Prop) (P P' : Conduct) : Prop :=
  ∀ ⦃verdict k u⦄, P verdict k u → P'.Shows T R verdict k u

namespace Mirrors

theorem refl (P : Conduct) : Mirrors Eq Eq P P := fun _ _ _ hp => shows_of_cost hp rfl

theorem after (hp : Mirrors Eq Eq P P') (hp' : Mirrors T R P' P'') : Mirrors T R P P'' := by
  intro verdict k u h
  obtain ⟨_, _, _, h', hl, hk, rfl⟩ := hp h
  obtain ⟨verdict'', k'', u'', h'', hl', hk', hu⟩ := hp' h'
  exact ⟨verdict'', k'', u'', h'', hl.trans hl' fun ha hb => ha ▸ hb, hk'.trans hk, hu⟩

theorem before (hp : Mirrors T R P P') (hp' : Mirrors Eq Eq P' P'') : Mirrors T R P P'' := by
  intro verdict k u h
  obtain ⟨_, _, _, h', hl, hk, hu⟩ := hp h
  obtain ⟨verdict'', k'', _, h'', hl', hk', rfl⟩ := hp' h'
  exact ⟨verdict'', k'', _, h'', hl.trans hl' fun ha hb => hb ▸ ha, hk'.trans hk, hu⟩

theorem mono (hp : Mirrors T R P P') (hT : ∀ {v v'}, T v v' → T' v v') : Mirrors T' R P P' := by
  intro verdict k u h
  obtain ⟨verdict', k', u', h', hl, hk, hu⟩ := hp h
  exact ⟨verdict', k', u', h', hl.mono hT, hk, hu⟩

/-- What mirrors in both parts, after values of the first parts that are related, mirrors as a chain. -/
theorem chain (hp : Mirrors T R P P') (hR : ∀ {u u'}, R u u' → R' u u')
    (hk : ∀ {v v' m m' u u'}, P (.value v) m u → P' (.value v') m' u' → T v v' → R u u' →
      Mirrors T' R' (K v u) (K' v' u')) : Mirrors T' R' (Chain P K) (Chain P' K') := by
  intro verdict k u h
  cases h with
  | next hfirst hrest =>
    obtain ⟨_, m', w', hfirst', hl, hm, hw⟩ := hp hfirst
    cases hl with
    | value hv =>
      obtain ⟨verdict', n', u', hrest', hl', hn, hu⟩ := hk hfirst hfirst' hv hw hrest
      refine ⟨verdict', _, u', .next hfirst' hrest', hl', ?_, hu⟩
      simp only [Counters.chained, hm, hn]
  | stop hfirst hstop hout =>
    obtain ⟨verdict', m', u', hfirst', hl, hm, hu⟩ := hp hfirst
    exact ⟨_, _, u', .stop hfirst' (hl.isValue_eq.trans hstop) rfl, hout ▸ hl.outward hstop, hm, hR hu⟩

end Mirrors

/-- **Conducts correspond** if each mirrors the other. -/
structure Corresponds (T : Value → Value → Prop) (R : World → World → Prop) (P P' : Conduct) : Prop where
  forth : Mirrors T R P P'
  back : Mirrors (flip T) (flip R) P' P

/-- **Conducts are the same** but for the frames that wait and for the cost of anything but actions. -/
structure Same (P P' : Conduct) : Prop where
  forth : Mirrors Eq Eq P P'
  back : Mirrors Eq Eq P' P

namespace Same

theorem refl (P : Conduct) : P.Same P := ⟨.refl P, .refl P⟩

theorem symm (hp : P.Same P') : P'.Same P := ⟨hp.back, hp.forth⟩

theorem trans (hp : P.Same P') (hp' : P'.Same P'') : P.Same P'' :=
  ⟨hp.forth.after hp'.forth, hp'.back.after hp.back⟩

/-- Chains of the same parts are the same. -/
theorem chain (hp : P.Same P') (hk : ∀ v u, (K v u).Same (K' v u)) : (Chain P K).Same (Chain P' K') where
  forth := hp.forth.chain id fun _ _ hv hu => hv ▸ hu ▸ (hk _ _).forth
  back := hp.back.chain id fun _ _ hv hu => hv ▸ hu ▸ (hk _ _).back

/-- What is the same matches. -/
theorem to_matches (hp : P.Same P') : P.Matches P' where
  refines verdict k u h := by
    obtain ⟨verdict', k', _, h', hl, hk, rfl⟩ := hp.forth h
    exact attains_of_agrees h' (hl.agrees u) hk
  refined verdict k u h := by
    obtain ⟨verdict', k', _, h', hl, hk, rfl⟩ := hp.back h
    exact attains_of_agrees h' (hl.agrees u) hk

end Same

namespace Corresponds

/-- What is the same as one of two conducts corresponds to the other. -/
theorem after (hp : P.Same P') (hp' : Corresponds T R P' P'') : Corresponds T R P P'' :=
  ⟨hp.forth.after hp'.forth, hp'.back.before hp.back⟩

theorem before (hp : Corresponds T R P P') (hp' : P'.Same P'') : Corresponds T R P P'' :=
  ⟨hp.forth.before hp'.forth, hp'.back.after hp.back⟩

/-- What corresponds in both parts, after values of the first parts that are related, corresponds as a
chain. -/
theorem chain (hp : Corresponds T R P P') (hR : ∀ {u u'}, R u u' → R' u u')
    (hk : ∀ {v v' m m' u u'}, P (.value v) m u → P' (.value v') m' u' → T v v' → R u u' →
      Corresponds T' R' (K v u) (K' v' u')) : Corresponds T' R' (Chain P K) (Chain P' K') where
  forth := hp.forth.chain hR fun hv hv' ht hu => (hk hv hv' ht hu).forth
  back := hp.back.chain hR fun hv hv' ht hu => (hk hv' hv ht hu).back

/-- A weaker relation of values holds as well. -/
theorem mono (hp : Corresponds T R P P') (hT : ∀ {v v'}, T v v' → T' v v') : Corresponds T' R P P' where
  forth := hp.forth.mono hT
  back := hp.back.mono hT

/-- Values that are related, in worlds that are. -/
theorem just {v v' : Value} {u u' : World} (hv : T v v') (hu : R u u') :
    Corresponds T R (Just (.value v) u) (Just (.value v') u') where
  forth := by
    rintro _ _ _ ⟨rfl, rfl, rfl⟩
    exact ⟨_, _, u', ⟨rfl, rfl, rfl⟩, .value hv, rfl, hu⟩
  back := by
    rintro _ _ _ ⟨rfl, rfl, rfl⟩
    exact ⟨_, _, u, ⟨rfl, rfl, rfl⟩, .value hv, rfl, hu⟩

end Corresponds

/-! ### Laws of chains -/

/-- What follows a value that is there at once is the rest. -/
theorem same_chain_just_value (v : Value) (w : World) (K : Value → World → Conduct) :
    (Chain (Just (.value v) w) K).Same (K v w) where
  forth := by
    intro verdict k u hc
    cases hc with
    | next hfirst hrest =>
      obtain ⟨hv, rfl, rfl⟩ := hfirst
      cases hv
      exact shows_of_cost hrest (Nat.zero_add _).symm
    | stop hfirst hstop =>
      obtain ⟨rfl, -⟩ := hfirst
      cases hstop
  back verdict k u hk := shows_of_cost (.next ⟨rfl, rfl, rfl⟩ hk) (Nat.zero_add _)

/-- Nothing follows a conduct that comes to no value. -/
theorem same_chain_of_stopped (hp : ∀ v k u, ¬ P (.value v) k u) (K : Value → World → Conduct) :
    (Chain P K).Same P where
  forth := by
    intro verdict k u hc
    cases hc with
    | next hfirst hrest => exact absurd hfirst (hp _ _ _)
    | stop hfirst hstop hout =>
      subst hout
      exact shows_of_like hfirst (.from_outward hstop) rfl
  back := by
    intro verdict k u h
    have hstop : verdict.isValue = false := by
      cases verdict with
      | value v => exact absurd h (hp v k u)
      | _ => rfl
    exact shows_of_like (.stop h hstop rfl) (.to_outward hstop) rfl

/-- Nothing follows what stops at once. -/
theorem same_chain_just_stop {verdict : Verdict} (hstop : verdict.isValue = false) (w : World)
    (K : Value → World → Conduct) : (Chain (Just verdict w) K).Same (Just verdict w) := by
  refine same_chain_of_stopped ?_ K
  rintro v k u ⟨rfl, -⟩
  cases hstop

/-- Giving the value back makes no difference. -/
theorem same_chain_just (P : Conduct) : (Chain P fun v w => Just (.value v) w).Same P where
  forth := by
    intro verdict k u hc
    cases hc with
    | next hp hrest =>
      obtain ⟨rfl, rfl, rfl⟩ := hrest
      exact shows_of_cost hp rfl
    | stop hp hstop hout =>
      subst hout
      exact shows_of_like hp (.from_outward hstop) rfl
  back := by
    intro verdict k u hp
    cases verdict with
    | value v => exact shows_of_cost (.next hp ⟨rfl, rfl, rfl⟩) rfl
    | _ => exact shows_of_like (.stop hp rfl rfl) (.to_outward rfl) rfl

/-- **Chains associate.** -/
theorem same_chain_chain (P : Conduct) (K L : Value → World → Conduct) :
    (Chain (Chain P K) L).Same (Chain P fun v w => Chain (K v w) L) where
  forth := by
    intro verdict k u hc
    cases hc with
    | next hfirst hrest =>
      cases hfirst with
      | next hp hk => exact shows_of_cost (.next hp (.next hk hrest)) (Nat.add_assoc _ _ _).symm
      | stop _ hstop hout => cases Verdict.isValue_of_eq_outward hout hstop
    | stop hfirst hstop hout =>
      subst hout
      cases hfirst with
      | next hp hk => exact shows_of_cost (.next hp (.stop hk hstop rfl)) rfl
      | stop hp hstop' hout =>
        subst hout
        exact shows_of_like (.stop hp hstop' rfl) (.from_outward hstop) rfl
  back := by
    intro verdict k u hc
    cases hc with
    | next hp hrest =>
      cases hrest with
      | next hk hl => exact shows_of_cost (.next (.next hp hk) hl) (Nat.add_assoc _ _ _)
      | stop hk hstop hout =>
        subst hout
        exact shows_of_cost (.stop (.next hp hk) hstop rfl) rfl
    | stop hp hstop hout =>
      have hstop' := Verdict.isValue_of_eq_outward hout hstop
      exact shows_of_like (.stop (.stop hp hstop hout) hstop' rfl) (.to_outward hstop') rfl

end Conduct
end EffectGraph
