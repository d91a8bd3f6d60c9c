import EffectGraph.Proofs.Journal

/-!
# Worlds that differ in their messages

Two runs that do the same may tell different things about it: the messages of the machine say how many
frames were dropped for a failure, and under what name it was raised.  Worlds are alike if they differ
in nothing but the messages of their journals.  Whatever is looked up in a world, or spelled out in
it, is the same in worlds that are alike.

`Eff.Relates R x y` says that `x` and `y`, done in worlds that are alike, end alike: with values in the
relation `R`, or with the same signal, and in worlds that are alike again.  A computation that is so
related to itself is deaf: whatever messages there are, it does the same.
-/

namespace EffectGraph
namespace World

variable {w w' w'' : World} (messages : Array String)

/-- The world with other messages in its journal. -/
def retold (w : World) (messages : Array String) : World :=
  { w with journal := { w.journal with messages } }

/-- **Worlds are alike** if they differ in their messages only. -/
def Alike (w w' : World) : Prop := ∃ messages, w' = w.retold messages

namespace Alike

theorem refl (w : World) : w.Alike w := ⟨w.journal.messages, rfl⟩

theorem retold (w : World) (messages : Array String) : w.Alike (w.retold messages) := ⟨messages, rfl⟩

theorem symm (hw : w.Alike w') : w'.Alike w := by
  obtain ⟨messages, rfl⟩ := hw
  exact ⟨w.journal.messages, rfl⟩

theorem trans (hw : w.Alike w') (hw' : w'.Alike w'') : w.Alike w'' := by
  obtain ⟨messages, rfl⟩ := hw
  obtain ⟨messages', rfl⟩ := hw'
  exact ⟨messages', rfl⟩

theorem ticked (hw : w.Alike w') : w.ticked.Alike w'.ticked := by
  obtain ⟨messages, rfl⟩ := hw
  exact ⟨messages, rfl⟩

/-- A message makes no difference. -/
theorem noted_self (w : World) (text : String) : w.Alike (w.noted text) := by
  refine ⟨(w.journal.noted text).messages, ?_⟩
  unfold World.noted Journal.noted
  split <;> rfl

theorem noted (hw : w.Alike w') (text text' : String) : (w.noted text).Alike (w'.noted text') :=
  (noted_self w text).symm.trans (hw.trans (noted_self w' text'))

theorem closed (hw : w.Alike w') (text text' : String) : (w.closed text).Alike (w'.closed text') :=
  hw.ticked.noted _ _

theorem brokenOff (hw : w.Alike w') (steps steps' : Nat) :
    (w.brokenOff steps).Alike (w'.brokenOff steps') := (hw.noted _ _).ticked

theorem opened (hw : w.Alike w') (description description' : String) :
    (w.opened description).Alike (w'.opened description') := hw.ticked.noted _ _

end Alike

/-! ### What is looked up in a world -/

variable (v : Value)

/-- The world with another journal and other iterators, of which no text tells. -/
def untold (w : World) (journal : Journal) (iterators : Array Iteration) : World :=
  { w with journal, iterators }

section untold

variable (journal : Journal) (iterators : Array Iteration)

theorem spellWith_untold (onRef : Place → Reference → Datum) :
    spellWith (w.untold journal iterators) onRef = spellWith w onRef := by
  delta spellWith
  rfl

theorem spellReference_untold (supply : Nat) :
    spellReference (w.untold journal iterators) supply = spellReference w supply := by
  induction supply with
  | zero => rfl
  | succ supply ih =>
    funext place r
    simp only [spellReference, ih, spellWith_untold]
    rfl

theorem spellOut_untold (listed : Bool) :
    (w.untold journal iterators).spellOut listed v = w.spellOut listed v := by
  unfold spellOut
  rw [spellReference_untold, spellWith_untold]
  rfl

theorem str?_untold : (w.untold journal iterators).str? v = w.str? v := by
  rw [str?, spellOut_untold, str?]

theorem repr?_untold : (w.untold journal iterators).repr? v = w.repr? v := by
  rw [repr?, spellOut_untold, repr?]

end untold

@[simp]
theorem isTruthy_retold : (w.retold messages).isTruthy v = w.isTruthy v := rfl

@[simp]
theorem str?_retold : (w.retold messages).str? v = w.str? v := str?_untold v _ w.iterators

@[simp]
theorem repr?_retold : (w.retold messages).repr? v = w.repr? v := repr?_untold v _ w.iterators

namespace Alike

variable {v} (hw : w.Alike w')
include hw

theorem str?_eq : w'.str? v = w.str? v := by
  obtain ⟨messages, rfl⟩ := hw
  exact str?_retold messages v

/-- A failure is put into the same words. -/
theorem worded_eq (fault : Fault Value) (label : Value) (step discarded : Nat) :
    Machine.worded w' fault label step discarded = Machine.worded w fault label step discarded := by
  obtain ⟨messages, rfl⟩ := hw
  simp only [Machine.worded, Machine.words, isTruthy_retold, str?_retold]

end Alike
end World

/-! ### Related computations -/

namespace Eff

variable {α β γ δ : Type} {R : α → β → Prop} {S : γ → δ → Prop} {x : Eff α} {y : Eff β}

/-- **Endings that agree:** related values or the same signal, in worlds that are alike. -/
inductive Agree (R : α → β → Prop) :
    EStateM.Result Signal World α → EStateM.Result Signal World β → Prop where
  | ok {a b w w'} (hab : R a b) (hw : World.Alike w w') : Agree R (.ok a w) (.ok b w')
  | error {w w'} (signal : Signal) (hw : World.Alike w w') :
      Agree R (.error signal w) (.error signal w')

namespace Agree

variable {w : World}

/-- What agrees with a value is a related value. -/
theorem exists_of_ok {a : α} {r : EStateM.Result Signal World β} (hr : Agree R (.ok a w) r) :
    ∃ b w', r = .ok b w' ∧ R a b ∧ w.Alike w' := by
  cases hr with
  | ok hab hw => exact ⟨_, _, rfl, hab, hw⟩

/-- What agrees with a signal is the same signal. -/
theorem exists_of_error {signal : Signal} {r : EStateM.Result Signal World β}
    (hr : Agree R (.error signal w : EStateM.Result Signal World α) r) :
    ∃ w', r = .error signal w' ∧ w.Alike w' := by
  cases hr with
  | error _ hw => exact ⟨_, rfl, hw⟩

variable {w' : World}

/-- What a value agrees with, seen from the other side, is a related value. -/
theorem exists_of_ok_right {b : β} {r : EStateM.Result Signal World α} (hr : Agree R r (.ok b w')) :
    ∃ a w, r = .ok a w ∧ R a b ∧ w.Alike w' := by
  cases hr with
  | ok hab hw => exact ⟨_, _, rfl, hab, hw⟩

/-- What follows related values ends alike if it is related. -/
theorem bind {f : α → Eff γ} {g : β → Eff δ} (hxy : Agree R (x w) (y w'))
    (hf : ∀ a b u u', R a b → u.Alike u' → Agree S (f a u) (g b u')) :
    Agree S ((x >>= f) w) ((y >>= g) w') := by
  simp only [Bind.bind, EStateM.bind]
  generalize x w = r, y w' = r' at hxy
  cases hxy with
  | ok hab hw => exact hf _ _ _ _ hab hw
  | error signal hw => exact .error signal hw

theorem attempt {x y : Eff α} (hxy : Agree Eq (x w) (y w')) :
    Agree Eq (Eff.attempt x w) (Eff.attempt y w') := by
  simp only [Eff.attempt]
  generalize x w = r, y w' = r' at hxy
  cases hxy with
  | ok hab hw => exact .ok (congrArg _ hab) hw
  | error signal hw =>
    cases signal with
    | raised fault => exact .ok rfl hw
    | exhausted => exact .error .exhausted hw

end Agree

/-- **Computations are related** if they end alike in worlds that are alike. -/
def Relates (R : α → β → Prop) (x : Eff α) (y : Eff β) : Prop :=
  ∀ ⦃w w'⦄, w.Alike w' → Agree R (x w) (y w')

namespace Relates

theorem pure {a : α} {b : β} (hab : R a b) : Relates R (Pure.pure a) (Pure.pure b) :=
  fun _ _ hw => .ok hab hw

theorem bind {f : α → Eff γ} {g : β → Eff δ} (hx : Relates R x y)
    (hf : ∀ a b, R a b → Relates S (f a) (g b)) : Relates S (x >>= f) (y >>= g) := by
  intro w w' hw
  exact (hx hw).bind fun a b u u' hab hu => hf a b hab hu

end Relates

/-! ### Deaf computations -/

/-- **A computation is deaf** if it does the same in worlds that are alike. -/
def Deaf (x : Eff α) : Prop := Relates Eq x x

namespace Deaf

theorem pure (a : α) : Deaf (Pure.pure a) := Relates.pure rfl

theorem bind {f : α → Eff γ} (hx : Deaf x) (hf : ∀ a, Deaf (f a)) : Deaf (x >>= f) :=
  Relates.bind hx fun a _ hab => hab ▸ hf a

theorem ite {c : Prop} [Decidable c] {y : Eff α} (hx : Deaf x) (hy : Deaf y) :
    Deaf (if c then x else y) := by
  split
  · exact hx
  · exact hy

/-- What looks at the world, but not at the messages, is deaf. -/
theorem get_bind {f : World → Eff α} (hblind : ∀ w messages, f (w.retold messages) = f w)
    (hf : ∀ w, Deaf (f w)) : Deaf (MonadState.get >>= f) := by
  intro w w' hw
  obtain ⟨messages, rfl⟩ := hw
  have hlook : (MonadState.get >>= f : Eff α) (w.retold messages) = f w (w.retold messages) :=
    congrFun (hblind w messages) _
  rw [hlook]
  exact hf w (.retold w messages)

/-- What changes the world, but does not touch the messages, is deaf. -/
theorem modifyGet {g : World → α × World}
    (hg : ∀ w messages, g (w.retold messages) = ((g w).1, (g w).2.retold messages)) :
    Deaf (MonadState.modifyGet g : Eff α) := by
  intro w w' hw
  obtain ⟨messages, rfl⟩ := hw
  have hchange : (MonadState.modifyGet g : Eff α) (w.retold messages) =
      .ok (g w).1 ((g w).2.retold messages) :=
    congrArg (fun r : α × World => EStateM.Result.ok r.1 r.2) (hg w messages)
  rw [hchange]
  exact .ok rfl (.retold _ messages)

theorem modify {g : World → World} (hg : ∀ w messages, g (w.retold messages) = (g w).retold messages) :
    Deaf (modify g : Eff PUnit) :=
  modifyGet fun w messages => congrArg (Prod.mk PUnit.unit) (hg w messages)

theorem raise (fault : Fault Value) : Deaf (Eff.raise fault : Eff α) :=
  fun _ _ hw => .error (.raised fault) hw

/-- Nothing follows a fault that is raised. -/
theorem raise_bind (fault : Fault Value) {f : α → Eff γ} : Deaf (Eff.raise fault >>= f) :=
  fun _ _ hw => .error (.raised fault) hw

theorem exhausted : Deaf (Eff.exhausted : Eff α) := fun _ _ hw => .error .exhausted hw

theorem complain (c : Complaint) : Deaf (Eff.complain c : Eff α) := raise c.fault

theorem complain_bind (c : Complaint) {f : α → Eff γ} : Deaf (Eff.complain c >>= f) :=
  raise_bind c.fault

theorem ofExcept (r : Except Complaint α) : Deaf (Eff.ofExcept r) := by
  cases r with
  | ok a => exact pure a
  | error c => exact complain c

theorem attempt (hx : Deaf x) : Deaf (Eff.attempt x) := fun _ _ hw => (hx hw).attempt

/-- What a deaf computation gives in one world it gives in any that is alike. -/
theorem exists_of_ok (hx : Deaf x) {w w' w₁ : World} (hw : w.Alike w') {a : α}
    (hr : x w = .ok a w₁) : ∃ w₁', x w' = .ok a w₁' ∧ w₁.Alike w₁' := by
  have hxx := hx hw
  rw [hr] at hxx
  obtain ⟨b, w₁', hr', rfl, hw₁⟩ := hxx.exists_of_ok
  exact ⟨w₁', hr', hw₁⟩

end Deaf
end Eff
end EffectGraph
