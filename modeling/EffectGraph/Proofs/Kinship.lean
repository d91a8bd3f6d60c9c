import EffectGraph.Proofs.Agreement
import EffectGraph.Proofs.Deafness
import EffectGraph.Proofs.Parallel

/-!
# Kin worlds

Worlds can differ in things that no program looks at.  A relation between worlds is a kinship if truth
and texts are the same in worlds that it relates, and if neither a message in both journals nor a look at
both clocks matters (`World.Kinship`).  Where thunks and continuations do the same in kin worlds
(`Host.Unaware`), recoveries are noted alike, failures are reported alike, and a node comes to the same
(`Evaluates.exists_kin`).  Worlds that are alike but for the messages are kin.

A label can still be told apart from another if one of them has a text and the other is refused one.
-/

namespace EffectGraph

open Machine

/-! ### Kinship -/

/-- **A kinship of worlds:** nothing in which they differ is ever told. -/
structure World.Kinship (R : World → World → Prop) : Prop where
  refl (w : World) : R w w
  trans {u v w} (hu : R u v) (hv : R v w) : R u w
  truth {u w} (hw : R u w) (v : Value) : w.isTruthy v = u.isTruthy v
  text {u w} (hw : R u w) (v : Value) : w.str? v = u.str? v
  recording {u w} (hw : R u w) : w.journal.recording = u.journal.recording
  noted {u w} (hw : R u w) (message message' : String) : R (u.noted message) (w.noted message')
  ticked {u w} (hw : R u w) : R u.ticked w.ticked

/-- **A host over which thunks and continuations do the same** in worlds that are related. -/
structure Host.Unaware (h : Host) (R : World → World → Prop) : Prop where
  applied {u w} (hw : R u w) (f v : Value) : Together Eq R (applied h f v u) (applied h f v w)
  performed {u w} (hw : R u w) (thunk label : Value) :
    Together Eq R (performed h thunk label u) (performed h thunk label w)

/-- To agree is to go together in worlds that are alike. -/
theorem Eff.agree_iff_together {α β : Type} {T : α → β → Prop}
    {x : EStateM.Result Signal World α} {y : EStateM.Result Signal World β} :
    Eff.Agree T x y ↔ Together T World.Alike x y := by
  constructor
  · rintro (⟨hab, hw⟩ | ⟨signal, hw⟩)
    · exact .ok hab hw
    · exact .error signal hw
  · rintro (⟨hab, hw⟩ | ⟨signal, hw⟩)
    · exact .ok hab hw
    · exact .error signal hw

/-- Worlds that are alike are kin. -/
theorem World.kinship_alike : Kinship Alike where
  refl := .refl
  trans := .trans
  truth := by
    rintro u _ ⟨messages, rfl⟩ v
    exact isTruthy_retold messages v
  text hw _ := hw.str?_eq
  recording := by
    rintro u _ ⟨messages, rfl⟩
    rfl
  noted hw message message' := hw.noted message message'
  ticked hw := hw.ticked

/-- A deaf host is unaware of the messages. -/
theorem Host.Deaf.unaware {h : Host} (hh : h.Deaf) : h.Unaware World.Alike where
  applied hw f v := Eff.agree_iff_together.mp (deaf_applied hh f v hw)
  performed hw thunk label := Eff.agree_iff_together.mp (deaf_performed hh thunk label hw)

namespace Together

variable {α β : Type} {T : α → β → Prop} {R : World → World → Prop} {a : α} {u : World}
  {signal : Signal}

/-- What goes together with a result is one. -/
theorem exists_of_ok {y : EStateM.Result Signal World β} (hxy : Together T R (.ok a u) y) :
    ∃ b w, y = .ok b w ∧ T a b ∧ R u w := by
  cases hxy with
  | ok hab hw => exact ⟨_, _, rfl, hab, hw⟩

/-- What goes together with a signal is the same signal. -/
theorem exists_of_error {y : EStateM.Result Signal World β} (hxy : Together T R (.error signal u) y) :
    ∃ w, y = .error signal w ∧ R u w := by
  cases hxy with
  | error _ hw => exact ⟨_, rfl, hw⟩

/-- What goes together with what is given is given as well. -/
theorem exists_same {x y : EStateM.Result Signal World α} (hxy : Together Eq R x y) (hx : x = .ok a u) :
    ∃ w, y = .ok a w ∧ R u w := by
  rw [hx] at hxy
  obtain ⟨_, w, hy, rfl, hw⟩ := hxy.exists_of_ok
  exact ⟨w, hy, hw⟩

end Together

/-! ### Labels -/

/-- Labels stand for each other if they are the same, or if both have a text. -/
def World.Tells (w : World) (label label' : Value) : Prop :=
  label' = label ∨ (∃ text, w.str? label = .ok text) ∧ ∃ text, w.str? label' = .ok text

namespace World.Tells

variable {w w' : World} {label label' label'' : Value}

theorem symm (hl : w.Tells label label') : w.Tells label' label := by
  rcases hl with rfl | ⟨hl, hl'⟩
  · exact .inl rfl
  · exact .inr ⟨hl', hl⟩

theorem trans (hl : w.Tells label label') (hl' : w.Tells label' label'') : w.Tells label label'' := by
  rcases hl with rfl | ⟨hl, htext⟩
  · exact hl'
  · rcases hl' with rfl | ⟨-, htext'⟩
    · exact .inr ⟨hl, htext⟩
    · exact .inr ⟨hl, htext'⟩

theorem kin {R : World → World → Prop} (hR : Kinship R) (hl : w.Tells label label') (hw : R w w') :
    w'.Tells label label' := by
  unfold Tells
  rw [hR.text hw, hR.text hw]
  exact hl

end World.Tells

namespace Machine

variable {u w : World} {label label' : Value}

/-- A recovery whose label has no text is refused if the journal records. -/
theorem recoveryNote_of_error {c : Complaint} (hl : w.str? label = .error c) (fault : Fault Value)
    (dropped : Nat) : recoveryNote fault label dropped w =
      if w.journal.recording then .error (.raised c.fault) w else .ok () w := by
  rw [recoveryNote, World.note, Eff.bind_get, hl]
  split <;> rfl

/-- Under a label that has a text, only the text of the cause can be refused. -/
theorem worded_of_text {text : String} (htext : w.str? label = .ok text) (fault : Fault Value)
    (step discarded : Nat) :
    (∀ cause, w.str? (.fault fault) = .ok cause → ∃ f,
      worded w fault label step discarded = .ok f ∧ f.cause = fault) ∧
    ∀ c, w.str? (.fault fault) = .error c → worded w fault label step discarded = .error c := by
  unfold worded words
  refine ⟨fun cause hcause => ?_, fun c hcause => ?_⟩
  · rw [htext, hcause]
    split <;> exact ⟨_, rfl, rfl⟩
  · rw [htext, hcause]
    split <;> rfl

section kin

variable {R : World → World → Prop} (hR : World.Kinship R) (hw : R u w) (hl : u.Tells label label')
  (fault : Fault Value)
include hR hw

theorem worded_eq_of_kin (step discarded : Nat) :
    worded w fault label step discarded = worded u fault label step discarded := by
  simp only [worded, words, hR.truth hw, hR.text hw]

include hl

/-- **Recoveries are noted, or refused, alike** under labels that stand for each other. -/
theorem together_recoveryNote (dropped dropped' : Nat) :
    Together Eq R (recoveryNote fault label dropped u) (recoveryNote fault label' dropped' w) := by
  have hnoted {text text' : String} (htext : u.str? label = .ok text)
      (htext' : u.str? label' = .ok text') : Together Eq R (recoveryNote fault label dropped u)
        (recoveryNote fault label' dropped' w) := by
    rw [recoveryNote_apply htext, recoveryNote_apply ((hR.text hw _).trans htext')]
    exact .ok rfl (hR.noted hw _ _)
  rcases hl with rfl | ⟨⟨text, htext⟩, text', htext'⟩
  · cases htext : u.str? label' with
    | ok text => exact hnoted htext htext
    | error c =>
      rw [recoveryNote_of_error htext, recoveryNote_of_error ((hR.text hw _).trans htext),
        hR.recording hw]
      split
      · exact .error _ hw
      · exact .ok rfl hw
  · exact hnoted htext htext'

/-- **A failure is reported alike,** or not at all, under labels that stand for each other. -/
theorem worded_kin (step step' discarded discarded' : Nat) :
    (∃ f f', worded u fault label step discarded = .ok f ∧
      worded w fault label' step' discarded' = .ok f' ∧ f.cause = fault ∧ f'.cause = fault) ∨
    ∃ c, worded u fault label step discarded = .error c ∧
      worded w fault label' step' discarded' = .error c := by
  rw [worded_eq_of_kin hR hw]
  rcases hl with rfl | ⟨⟨text, htext⟩, text', htext'⟩
  · unfold worded
    cases words u fault label' with
    | ok texts => exact .inl ⟨_, _, rfl, rfl, rfl, rfl⟩
    | error c => exact .inr ⟨c, rfl, rfl⟩
  · have htold := worded_of_text htext fault step discarded
    have htold' := worded_of_text htext' fault step' discarded'
    cases hcause : u.str? (.fault fault) with
    | ok cause =>
      obtain ⟨f, hf, hfault⟩ := htold.1 cause hcause
      obtain ⟨f', hf', hfault'⟩ := htold'.1 cause hcause
      exact .inl ⟨f, f', hf, hf', hfault, hfault'⟩
    | error c => exact .inr ⟨c, htold.2 c hcause, htold'.2 c hcause⟩

end kin
end Machine

/-! ### Nodes in kin worlds -/

/-- **A node comes to the same** in worlds that are kin, over a host that is unaware of the difference.
The induction is on what it comes to in the one. -/
theorem Evaluates.exists_kin {R : World → World → Prop} (hR : World.Kinship R) {h : Host}
    (hh : h.Unaware R) {m : Value} {w w' u : World} {verdict : Verdict} {k : Counters}
    (he : Evaluates h m w verdict k u) (hw : R w w') :
    ∃ u', Evaluates h m w' verdict k u' ∧ R u u' := by
  have hnotes {u u' : World} (hu : R u u') (fault : Fault Value) (label : Value) (dropped : Nat) :
      Together Eq R (recoveryNote fault label dropped u) (recoveryNote fault label dropped u') :=
    together_recoveryNote hR hu (.inl rfl) fault dropped dropped
  induction he generalizing w' with
  | done => exact ⟨w', .done, hw⟩
  | action hrun =>
    obtain ⟨u', hrun', hu⟩ := (hh.performed hw _ _).exists_same hrun
    exact ⟨u', .action hrun', hu⟩
  | actionMishap hrun =>
    obtain ⟨u', hrun', hu⟩ := (hh.performed hw _ _).exists_same hrun
    exact ⟨u', .actionMishap hrun', hu⟩
  | sequence _ hf _ ihsource ihnode =>
    obtain ⟨w₁, hsource, hw₁⟩ := ihsource hw
    obtain ⟨w₂, hf', hw₂⟩ := (hh.applied hw₁ _ _).exists_same hf
    obtain ⟨u', hnode, hu⟩ := ihnode hw₂
    exact ⟨u', .sequence hsource hf' hnode, hu⟩
  | sequenceMishap _ hf ihsource =>
    obtain ⟨w₁, hsource, hw₁⟩ := ihsource hw
    obtain ⟨u', hf', hu⟩ := (hh.applied hw₁ _ _).exists_same hf
    exact ⟨u', .sequenceMishap hsource hf', hu⟩
  | sequenceStopped _ hstop ihsource =>
    obtain ⟨u', hsource, hu⟩ := ihsource hw
    exact ⟨u', .sequenceStopped hsource hstop, hu⟩
  | region _ ihsource =>
    obtain ⟨u', hsource, hu⟩ := ihsource hw
    exact ⟨u', .region hsource, hu⟩
  | rescue _ hnote hg _ ihsource ihnode =>
    obtain ⟨w₁, hsource, hw₁⟩ := ihsource hw
    obtain ⟨w₂, hnote', hw₂⟩ := (hnotes hw₁ _ _ _).exists_same hnote
    obtain ⟨w₃, hg', hw₃⟩ := (hh.applied hw₂ _ _).exists_same hg
    obtain ⟨u', hnode, hu⟩ := ihnode hw₃
    exact ⟨u', .rescue hsource hnote' hg' hnode, hu⟩
  | rescueMishap _ hnote hg ihsource =>
    obtain ⟨w₁, hsource, hw₁⟩ := ihsource hw
    obtain ⟨w₂, hnote', hw₂⟩ := (hnotes hw₁ _ _ _).exists_same hnote
    obtain ⟨u', hg', hu⟩ := (hh.applied hw₂ _ _).exists_same hg
    exact ⟨u', .rescueMishap hsource hnote' hg', hu⟩
  | rescueRefused _ hnote ihsource =>
    obtain ⟨w₁, hsource, hw₁⟩ := ihsource hw
    obtain ⟨u', hnote', hu⟩ := (hnote ▸ hnotes hw₁ _ _ _).exists_of_error
    exact ⟨u', .rescueRefused hsource hnote', hu⟩
  | regionPassed _ hpass ihsource =>
    obtain ⟨u', hsource, hu⟩ := ihsource hw
    exact ⟨u', .regionPassed hsource hpass, hu⟩
  | unknown hv => exact ⟨w', .unknown hv, hw⟩

end EffectGraph
