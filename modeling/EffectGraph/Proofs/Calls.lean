import EffectGraph.Proofs.Conduct

/-!
# The conduct of nodes and of calls

A node comes to what it evaluates to, and the conduct of a sequence or of a guarded node is made of
those of its parts.  `Called` is the conduct of a continuation that is called on a value: it goes on
with the node that it is given, or fails with the fault that is raised, under the name of the
continuation.  Continuations that do the same under different names cannot be told apart, as long as
their names have texts.  What a node comes to from a world is one thing only (`Evaluates.only`).
-/

namespace EffectGraph

open Machine

/-- What calling a continuation on a value and running its node comes to. -/
inductive Called (h : Host) (f v : Value) (w : World) : Conduct where
  | node {n verdict k w' u} (hf : applied h f v w = .ok (.ok n) w') (hn : Evaluates h n w' verdict k u) :
      Called h f v w verdict k u
  | mishap {m u} (hf : applied h f v w = .ok (.error m) u) : Called h f v w (.ofMishap m) .zero u

/-! ### The conduct of nodes -/

section nodes

variable {h : Host} {m v : Value} {w w' u : World} {verdict : Verdict} {k : Counters}

/-- A finished node comes to its value at once. -/
theorem evaluates_done (h : Host) (i : Nat) (v : Value) (w : World) :
    Evaluates h (.node i (.done v)) w = Conduct.Just (.value v) w := by
  refine Conduct.ext fun verdict k u => ⟨fun he => ?_, ?_⟩
  · cases he with
    | done => exact ⟨rfl, rfl, rfl⟩
    | unknown hv => cases hv
  · rintro ⟨rfl, rfl, rfl⟩
    exact .done

/-- The conduct of a sequence is a chain. -/
theorem evaluates_flatMap (h : Host) (i : Nat) (m f : Value) (w : World) :
    Evaluates h (.node i (.flatMap m f)) w = Conduct.Chain (Evaluates h m w) (Called h f) := by
  refine Conduct.ext fun verdict k u => ⟨fun he => ?_, fun hc => ?_⟩
  · cases he with
    | sequence hsource hf hnode => exact .next hsource (.node hf hnode)
    | sequenceMishap hsource hf => exact .next hsource (.mishap hf)
    | sequenceStopped hsource hstop => exact .stop hsource hstop rfl
    | unknown hv => cases hv
  · cases hc with
    | next hsource hcalled =>
      cases hcalled with
      | node hf hnode => exact .sequence hsource hf hnode
      | mishap hf => exact .sequenceMishap hsource hf
    | stop hsource hstop hout =>
      subst hout
      exact .sequenceStopped hsource hstop

/-- The conduct of a guarded node is a guarded conduct. -/
theorem evaluates_recover (h : Host) (i : Nat) (m g : Value) (w : World) :
    Evaluates h (.node i (.recover m g)) w =
      Conduct.Guard (Evaluates h m w) (fun fault => Called h g (.fault fault)) := by
  refine Conduct.ext fun verdict k u => ⟨fun he => ?_, fun hc => ?_⟩
  · cases he with
    | region hsource => exact .value hsource
    | rescue hsource hnote hg hnode => exact .rescue hsource hnote (.node hg hnode)
    | rescueMishap hsource hnote hg => exact .rescue hsource hnote (.mishap hg)
    | rescueRefused hsource hnote => exact .refused hsource hnote
    | regionPassed hsource hpass => exact .pass hsource hpass rfl
    | unknown hv => cases hv
  · cases hc with
    | value hsource => exact .region hsource
    | rescue hsource hnote hcalled =>
      cases hcalled with
      | node hg hnode => exact .rescue hsource hnote hg hnode
      | mishap hg => exact .rescueMishap hsource hnote hg
    | refused hsource hnote => exact .rescueRefused hsource hnote
    | pass hsource hpass hout =>
      subst hout
      exact .regionPassed hsource hpass

/-- An action that raises a fault comes to that at once. -/
theorem evaluates_raise_matches (h : Host) (i j : Nat) (fault : Fault Value) {label : String}
    (hlabel : label.isEmpty = false) (w : World) :
    Conduct.Matches (Evaluates h (.node i (.delay (.callback j (.raiseFault (.fault fault)))
      (.str label))) w) (Conduct.Just (.ofMishap (fault, .str label)) w) := by
  have hperformed := performed_raiseFault h j fault hlabel w
  constructor
  · intro verdict k u he
    cases he with
    | action hrun =>
      rw [hperformed] at hrun
      cases hrun
    | actionMishap hrun =>
      rw [hperformed] at hrun
      cases hrun
      exact Conduct.attains_of_cost ⟨rfl, rfl, rfl⟩ rfl
    | unknown hv => cases hv
  · rintro _ _ _ ⟨rfl, rfl, rfl⟩
    exact Conduct.attains_of_cost (.actionMishap hperformed) rfl

/-- **A node fails with failures only,** not with interrupts. -/
theorem Evaluates.isFailure {fault : Fault Value} {label : Value} {pending : Nat}
    (he : Evaluates h m w (.failure fault label pending) k u) : fault.kind.isFailure = true :=
  (he.arrives (Settings.plain_settingsOf w) .empty .zero (Nat.zero_le _)).1

/-- **Over a deaf host a node comes to the same** in worlds that are alike. -/
theorem Evaluates.exists_alike (hh : h.Deaf) (he : Evaluates h m w verdict k u) (hw : w.Alike w') :
    ∃ u', Evaluates h m w' verdict k u' ∧ u.Alike u' := he.exists_kin World.kinship_alike hh.unaware hw

/-- The conduct of a node heeds no messages. -/
theorem evaluates_matches (hh : h.Deaf) (m : Value) (hw : w.Alike w') :
    Conduct.Matches (Evaluates h m w) (Evaluates h m w') where
  refines verdict k u he := by
    obtain ⟨u', he', hu⟩ := he.exists_alike hh hw
    exact Conduct.attains_of_alike he' hu rfl
  refined verdict k u he := by
    obtain ⟨u', he', hu⟩ := he.exists_alike hh hw.symm
    exact Conduct.attains_of_alike he' hu rfl

end nodes

/-! ### The conduct of calls -/

section calls

variable {h : Host} {f f' v v' n : Value} {w w' u : World} {fault : Fault Value}

/-- A continuation that gives a node is called without a mishap. -/
theorem applied_of_node (hf : h.invoke f [v] w = .ok n u) (hn : n.isNode = true) :
    applied h f v w = .ok (.ok n) u := by
  have hattempt : Eff.attempt (h.invoke f [v]) w = .ok (.ok n) u := by
    simp only [Eff.attempt, hf]
  rw [applied, Eff.bind_of_ok hattempt]
  simp only [hn]
  rfl

/-- Nor does one that never returns have a mishap. -/
theorem applied_of_exhausted (hf : h.invoke f [v] w = .error .exhausted u) :
    applied h f v w = .error .exhausted u := by
  have hattempt : Eff.attempt (h.invoke f [v]) w = .error .exhausted u := by
    simp only [Eff.attempt, hf]
  rw [applied, Eff.bind_of_error hattempt]

/-- A continuation that gives a node comes to what the node comes to. -/
theorem called_of_node (hf : h.invoke f [v] w = .ok n u) (hn : n.isNode = true) :
    Called h f v w = Evaluates h n u := by
  have happlied := applied_of_node hf hn
  refine Conduct.ext fun verdict k u' => ⟨fun hc => ?_, fun he => .node happlied he⟩
  cases hc with
  | node hfn hnode =>
    rw [happlied] at hfn
    cases hfn
    exact hnode
  | mishap hfm =>
    rw [happlied] at hfm
    cases hfm

/-- A continuation that has a mishap comes to it at once. -/
theorem called_of_mishap {mis : Mishap} (hf : applied h f v w = .ok (.error mis) u) :
    Called h f v w = Conduct.Just (.ofMishap mis) u := by
  refine Conduct.ext fun verdict k u' => ⟨fun hc => ?_, ?_⟩
  · cases hc with
    | node hfn hnode =>
      rw [hf] at hfn
      cases hfn
    | mishap hfm =>
      rw [hf] at hfm
      cases hfm
      exact ⟨rfl, rfl, rfl⟩
  · rintro ⟨rfl, rfl, rfl⟩
    exact .mishap hf

/-- A fault that is raised is reported under the name of the continuation. -/
theorem applied_of_raised (hf : h.invoke f [v] w = .error (.raised fault) u) :
    applied h f v w = .ok (.error (fault, u.callableName f)) u := by
  have hattempt : Eff.attempt (h.invoke f [v]) w = .ok (.error fault) u := by
    simp only [Eff.attempt, hf]
  rw [applied, Eff.bind_of_ok hattempt]
  rfl

/-- So is the complaint about what is no node. -/
theorem applied_of_other (hf : h.invoke f [v] w = .ok n u) (hn : n.isNode = false) :
    applied h f v w =
      .ok (.error ((Complaint.continuationGave n.typeName).fault, u.callableName f)) u := by
  have hattempt : Eff.attempt (h.invoke f [v]) w = .ok (.ok n) u := by
    simp only [Eff.attempt, hf]
  rw [applied, Eff.bind_of_ok hattempt]
  simp only [hn]
  rfl

/-- A continuation that never returns comes to nothing. -/
theorem not_called_of_exhausted (hf : h.invoke f [v] w = .error .exhausted u) {verdict : Verdict}
    {k : Counters} {u' : World} : ¬ Called h f v w verdict k u' := by
  have happlied := applied_of_exhausted hf
  intro hc
  cases hc with
  | node hfn hnode =>
    rw [happlied] at hfn
    cases hfn
  | mishap hfm =>
    rw [happlied] at hfm
    cases hfm

/-- The conduct of a call heeds no messages. -/
theorem Called.exists_alike (hh : h.Deaf) {verdict : Verdict} {k : Counters}
    (hc : Called h f v w verdict k u) (hw : w.Alike w') :
    ∃ u', Called h f v w' verdict k u' ∧ u.Alike u' := by
  cases hc with
  | node hf hn =>
    obtain ⟨w₁, hf', hw₁⟩ := (deaf_applied hh f v).exists_of_ok hw hf
    obtain ⟨u', hn', hu⟩ := hn.exists_alike hh hw₁
    exact ⟨u', .node hf' hn', hu⟩
  | mishap hf =>
    obtain ⟨u', hf', hu⟩ := (deaf_applied hh f v).exists_of_ok hw hf
    exact ⟨u', .mishap hf', hu⟩

/-- Calls of a continuation match in worlds that are alike. -/
theorem called_matches (hh : h.Deaf) (f v : Value) (hw : w.Alike w') :
    Conduct.Matches (Called h f v w) (Called h f v w') where
  refines verdict k u hc := by
    obtain ⟨u', hc', hu⟩ := hc.exists_alike hh hw
    exact Conduct.attains_of_alike hc' hu rfl
  refined verdict k u hc := by
    obtain ⟨u', hc', hu⟩ := hc.exists_alike hh hw.symm
    exact Conduct.attains_of_alike hc' hu rfl

end calls

/-! ### The names of continuations -/

section names

variable {h : Host} {f f' v v' : Value} {w u : World}

/-- **A continuation has a text for a name** wherever it raises a fault or gives no node. -/
def Machine.Nameable (h : Host) (f : Value) : Prop :=
  ∀ v w mis u, applied h f v w = .ok (.error mis) u → ∃ text, u.str? (u.callableName f) = .ok text

/-- What no script has seen has one, for none has given it another. -/
theorem Machine.nameable_of_unseen (h : Host) (hf : f.identity? = none) : Nameable h f := by
  intro v w mis u _
  have hown : u.qualifiedName? f = f.ownName?.map .str := by
    rw [World.qualifiedName?, World.given?, hf]
    rfl
  rw [World.callableName, hown]
  cases f.ownName? with
  | none => exact ⟨_, rfl⟩
  | some name =>
    simp only [Option.map_some]
    split <;> exact ⟨_, rfl⟩

/-- Mishaps with the same fault agree if their labels stand for each other. -/
theorem Verdict.agrees_ofMishap (fault : Fault Value) {label label' : Value}
    (hlabel : w.Tells label label') :
    (Verdict.ofMishap (fault, label)).Agrees w (.ofMishap (fault, label')) := by
  cases hfault : fault.kind.isFailure with
  | true =>
    rw [ofMishap_of_failure hfault, ofMishap_of_failure hfault]
    exact .failure fault 0 0 hlabel
  | false =>
    rw [ofMishap_of_interrupt hfault, ofMishap_of_interrupt hfault]
    exact .interrupt fault

/-- **Continuations that do the same have the same conduct,** whatever their names are, if they have
texts. -/
theorem called_renamed (hsame : h.invoke f' [v'] w = h.invoke f [v] w) (hf : Nameable h f)
    (hf' : Nameable h f') : Conduct.Matches (Called h f v w) (Called h f' v' w) := by
  have hmishap {fault : Fault Value} {u : World}
      (happlied : applied h f v w = .ok (.error (fault, u.callableName f)) u)
      (happlied' : applied h f' v' w = .ok (.error (fault, u.callableName f')) u) :
      Conduct.Matches (Called h f v w) (Called h f' v' w) := by
    rw [called_of_mishap happlied, called_of_mishap happlied']
    have hnames : u.Tells (u.callableName f) (u.callableName f') :=
      .inr ⟨hf v w _ u happlied, hf' v' w _ u happlied'⟩
    exact .just (Verdict.agrees_ofMishap fault hnames) (.refl u)
  cases hinvoke : h.invoke f [v] w with
  | ok n u =>
    cases hn : n.isNode with
    | true =>
      rw [called_of_node hinvoke hn, called_of_node (hsame.trans hinvoke) hn]
      exact .refl _
    | false => exact hmishap (applied_of_other hinvoke hn) (applied_of_other (hsame.trans hinvoke) hn)
  | error signal u =>
    cases signal with
    | raised fault =>
      exact hmishap (applied_of_raised hinvoke) (applied_of_raised (hsame.trans hinvoke))
    | exhausted =>
      exact ⟨fun _ _ _ hc => absurd hc (not_called_of_exhausted hinvoke),
        fun _ _ _ hc => absurd hc (not_called_of_exhausted (hsame.trans hinvoke))⟩

end names

/-! ### A node comes to one thing only -/

namespace Conduct

variable {P : Conduct} {K : Value → World → Conduct} {H : Fault Value → World → Conduct}
  {verdict : Verdict} {v label : Value} {fault refusal : Fault Value} {pending : Nat}
  {k m n : Counters} {u w w' : World}

/-- A conduct comes to nothing else. -/
def Only (P : Conduct) (verdict : Verdict) (k : Counters) (u : World) : Prop :=
  ∀ ⦃verdict' k' u'⦄, P verdict' k' u' → verdict = verdict' ∧ k = k' ∧ u = u'

theorem only_just (verdict : Verdict) (u : World) : (Just verdict u).Only verdict .zero u := by
  rintro _ _ _ ⟨rfl, rfl, rfl⟩
  exact ⟨rfl, rfl, rfl⟩

theorem Only.chain_next (hp : P.Only (.value v) m w) (hk : (K v w).Only verdict n u) :
    (Chain P K).Only verdict (m.chained n) u := by
  intro verdict' k' u' hc
  cases hc with
  | next hp' hk' =>
    obtain ⟨hv, rfl, rfl⟩ := hp hp'
    cases hv
    obtain ⟨rfl, rfl, rfl⟩ := hk hk'
    exact ⟨rfl, rfl, rfl⟩
  | stop hp' hstop =>
    obtain ⟨rfl, -, -⟩ := hp hp'
    cases hstop

theorem Only.chain_stop (hp : P.Only verdict m u) (hstop : verdict.isValue = false) :
    (Chain P K).Only verdict.outward m.framed u := by
  intro verdict' k' u' hc
  cases hc with
  | next hp' =>
    obtain ⟨rfl, -, -⟩ := hp hp'
    cases hstop
  | stop hp' _ hout =>
    obtain ⟨rfl, rfl, rfl⟩ := hp hp'
    exact ⟨hout.symm, rfl, rfl⟩

theorem Only.guard_value (hp : P.Only (.value v) m u) :
    (Guard P H).Only (.value v) m.framed.stepped u := by
  intro verdict' k' u' hc
  cases hc with
  | value hp' =>
    obtain ⟨hv, rfl, rfl⟩ := hp hp'
    exact ⟨hv, rfl, rfl⟩
  | rescue hp' | refused hp' => cases (hp hp').1
  | pass hp' hpass =>
    obtain ⟨rfl, -, -⟩ := hp hp'
    cases hpass

theorem Only.guard_rescue (hp : P.Only (.failure fault label pending) m w)
    (hnote : recoveryNote fault label pending w = .ok () w') (hh : (H fault w').Only verdict n u) :
    (Guard P H).Only verdict (m.rescued pending n) u := by
  intro verdict' k' u' hc
  cases hc with
  | value hp' => cases (hp hp').1
  | rescue hp' hnote' hh' =>
    obtain ⟨hv, rfl, rfl⟩ := hp hp'
    cases hv
    cases hnote.symm.trans hnote'
    obtain ⟨rfl, rfl, rfl⟩ := hh hh'
    exact ⟨rfl, rfl, rfl⟩
  | refused hp' hnote' =>
    obtain ⟨hv, rfl, rfl⟩ := hp hp'
    cases hv
    cases hnote.symm.trans hnote'
  | pass hp' hpass =>
    obtain ⟨rfl, -, -⟩ := hp hp'
    cases hpass

theorem Only.guard_refused (hp : P.Only (.failure fault label pending) m w)
    (hnote : recoveryNote fault label pending w = .error (.raised refusal) u) :
    (Guard P H).Only (.interrupt refusal) m.framed u := by
  intro verdict' k' u' hc
  cases hc with
  | value hp' => cases (hp hp').1
  | rescue hp' hnote' | refused hp' hnote' =>
    obtain ⟨hv, rfl, rfl⟩ := hp hp'
    cases hv
    cases hnote.symm.trans hnote'
    try exact ⟨rfl, rfl, rfl⟩
  | pass hp' hpass =>
    obtain ⟨rfl, -, -⟩ := hp hp'
    cases hpass

theorem Only.guard_pass (hp : P.Only verdict m u) (hpass : verdict.escapes = true) :
    (Guard P H).Only verdict.outward m.framed u := by
  intro verdict' k' u' hc
  cases hc with
  | value hp' | rescue hp' | refused hp' =>
    obtain ⟨rfl, -, -⟩ := hp hp'
    cases hpass
  | pass hp' _ hout =>
    obtain ⟨rfl, rfl, rfl⟩ := hp hp'
    exact ⟨hout.symm, rfl, rfl⟩

end Conduct

/-- A continuation that is given a node comes to what the node comes to. -/
theorem called_of_applied {h : Host} {f v n : Value} {w w' : World}
    (hf : applied h f v w = .ok (.ok n) w') : Called h f v w = Evaluates h n w' := by
  refine Conduct.ext fun verdict k u => ⟨fun hc => ?_, fun he => .node hf he⟩
  cases hc with
  | node hf' hn | mishap hf' =>
    cases hf.symm.trans hf'
    try exact hn

/-- **A node comes to one thing only** from a world. -/
theorem Evaluates.only {h : Host} {node : Value} {w u : World} {verdict : Verdict} {k : Counters}
    (he : Evaluates h node w verdict k u) : Conduct.Only (Evaluates h node w) verdict k u := by
  induction he with
  | done =>
    rw [evaluates_done]
    exact Conduct.only_just _ _
  | action hrun | actionMishap hrun =>
    intro verdict' k' u' he'
    cases he' with
    | action hrun' | actionMishap hrun' =>
      cases hrun.symm.trans hrun'
      try exact ⟨rfl, rfl, rfl⟩
    | unknown hv => cases hv
  | sequence _ hf _ ihsource ihnode =>
    rw [evaluates_flatMap]
    refine ihsource.chain_next ?_
    rw [called_of_applied hf]
    exact ihnode
  | sequenceMishap _ hf ihsource =>
    rw [evaluates_flatMap]
    refine ihsource.chain_next ?_
    rw [called_of_mishap hf]
    exact Conduct.only_just _ _
  | sequenceStopped _ hstop ihsource =>
    rw [evaluates_flatMap]
    exact ihsource.chain_stop hstop
  | region _ ihsource =>
    rw [evaluates_recover]
    exact ihsource.guard_value
  | rescue _ hnote hg _ ihsource ihnode =>
    rw [evaluates_recover]
    refine ihsource.guard_rescue hnote ?_
    rw [called_of_applied hg]
    exact ihnode
  | rescueMishap _ hnote hg ihsource =>
    rw [evaluates_recover]
    refine ihsource.guard_rescue hnote ?_
    rw [called_of_mishap hg]
    exact Conduct.only_just _ _
  | rescueRefused _ hnote ihsource =>
    rw [evaluates_recover]
    exact ihsource.guard_refused hnote
  | regionPassed _ hpass ihsource =>
    rw [evaluates_recover]
    exact ihsource.guard_pass hpass
  | unknown hv =>
    intro verdict' k' u' he'
    cases he' with
    | unknown _ => exact ⟨rfl, rfl, rfl⟩
    | _ => cases hv

end EffectGraph
