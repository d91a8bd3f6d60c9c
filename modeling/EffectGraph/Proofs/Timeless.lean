import EffectGraph.Proofs.Shadowing

/-!
# Timeless programs

A run reads the clock when it begins and when it ends, and tells the journal about itself, so another run
that goes on in the middle of it moves the clock and leaves messages behind.  Worlds are akin if they
differ in nothing but that (`World.Akin`).  A computation is timeless if it does not look at it, either
(`Eff.Timeless`): this is a custom, which everything observes that the library does over a host whose
operations are timeless (`Host.Timeless`).

Over such a host steps and whole runs do the same in worlds that are akin, so a host whose functions run
nodes themselves is timeless as well (`Host.Timeless.run`).
-/

namespace EffectGraph

open Machine

/-! ### Akin worlds -/

namespace World

/-- **Worlds are akin** if they differ in the clock and in the messages only. -/
def Akin (w w' : World) : Prop :=
  ∃ journal : Journal, journal.recording = w.journal.recording ∧ w' = { w with journal }

namespace Akin

variable {w w' w'' : World}

theorem of_journal (w : World) {journal : Journal} (hj : journal.recording = w.journal.recording) :
    w.Akin { w with journal } := ⟨journal, hj, rfl⟩

theorem refl (w : World) : w.Akin w := ⟨w.journal, rfl, rfl⟩

theorem symm (hw : w.Akin w') : w'.Akin w := by
  obtain ⟨journal, hj, rfl⟩ := hw
  exact ⟨w.journal, hj.symm, rfl⟩

theorem trans (hw : w.Akin w') (hw' : w'.Akin w'') : w.Akin w'' := by
  obtain ⟨journal, hj, rfl⟩ := hw
  obtain ⟨journal', hj', rfl⟩ := hw'
  exact ⟨journal', hj'.trans hj, rfl⟩

/-- To read the clock makes no difference, nor does a message. -/
theorem ticked_self (w : World) : w.Akin w.ticked := of_journal w rfl

theorem noted_self (w : World) (text : String) : w.Akin (w.noted text) :=
  of_journal w (w.journal.recording_noted text)

/-- The world in which a run begins is akin to the one from which it is started. -/
theorem opened_self (w : World) (description : String) : w.Akin (w.opened description) :=
  (ticked_self w).trans (noted_self _ _)

/-- The worlds that a run leaves behind are akin to the one in which the machine has halted. -/
theorem closed_self (w : World) (text : String) : w.Akin (w.closed text) :=
  (ticked_self w).trans (noted_self _ _)

theorem brokenOff_self (w : World) (steps : Nat) : w.Akin (w.brokenOff steps) :=
  (noted_self w _).trans (ticked_self _)

theorem cells_eq (hw : w.Akin w') : w'.cells = w.cells := by
  obtain ⟨journal, -, rfl⟩ := hw
  rfl

theorem describe?_eq (hw : w.Akin w') (v : Value) : w'.describe? v = w.describe? v := by
  obtain ⟨journal, -, rfl⟩ := hw
  rw [describe?, repr?_journal, describe?]

end Akin

theorem describe?_ticked (w : World) (v : Value) : w.ticked.describe? v = w.describe? v :=
  (Akin.ticked_self w).describe?_eq v

/-- **Akin worlds are kin.** -/
theorem kinship_akin : Kinship Akin where
  refl := .refl
  trans := .trans
  truth := by
    rintro u _ ⟨journal, -, rfl⟩ v
    rfl
  text := by
    rintro u _ ⟨journal, -, rfl⟩ v
    exact str?_journal u journal v
  recording := by
    rintro u _ ⟨journal, hj, rfl⟩
    exact hj
  noted hw message message' := (Akin.noted_self _ message).symm.trans (hw.trans (.noted_self _ message'))
  ticked hw := (Akin.ticked_self _).symm.trans (hw.trans (.ticked_self _))

end World

/-! ### Timeless computations -/

namespace Eff

variable {α β : Type} {x : Eff α}

/-- **A computation that does the same in akin worlds.** -/
def Timeless (x : Eff α) : Prop := ∀ ⦃u w : World⦄, u.Akin w → Together Eq World.Akin (x u) (x w)

namespace Timeless

theorem pure (a : α) : Timeless (Pure.pure a : Eff α) := fun _ _ hw => .ok rfl hw

theorem bind {f : α → Eff β} (hx : Timeless x) (hf : ∀ a, Timeless (f a)) : Timeless (x >>= f) :=
  fun _ _ hw => (hx hw).bind fun ha hu => ha ▸ hf _ hu

theorem attempt (hx : Timeless x) : Timeless (Eff.attempt x) := fun _ _ hw => (hx hw).attempt

theorem raise (fault : Fault Value) : Timeless (Eff.raise fault : Eff α) :=
  fun _ _ hw => .error _ hw

theorem exhausted : Timeless (Eff.exhausted : Eff α) := fun _ _ hw => .error _ hw

theorem get_bind {f : World → Eff α} (hblind : ∀ w journal, f { w with journal } = f w)
    (hf : ∀ w, Timeless (f w)) : Timeless (MonadState.get >>= f) := by
  rintro u _ ⟨journal, hj, rfl⟩
  rw [Eff.bind_get, Eff.bind_get, hblind u journal]
  exact hf u (.of_journal u hj)

theorem modifyGet {g : World → α × World}
    (hblind : ∀ w journal, g { w with journal } = ((g w).1, { (g w).2 with journal })) :
    Timeless (MonadState.modifyGet g : Eff α) := by
  rintro u _ ⟨journal, hj, rfl⟩
  have hkept : (g u).2.journal = u.journal :=
    congrArg (fun r : α × World => r.2.journal) (hblind u u.journal)
  have hchanged : (MonadState.modifyGet g : Eff α) { u with journal } =
      .ok (g u).1 { (g u).2 with journal } := by
    change EStateM.Result.ok (g { u with journal }).1 (g { u with journal }).2 = _
    rw [hblind]
  rw [hchanged]
  exact .ok rfl (.of_journal _ (hj.trans (congrArg Journal.recording hkept.symm)))

end Timeless
end Eff

/-- The same line is taken off the input at any time. -/
theorem Console.timeless_readStandard : Eff.Timeless readStandard := by
  rintro u _ ⟨journal, hj, rfl⟩
  rcases htake : Lines.takeRaw u.ending u.input with ⟨raw, rest⟩
  have hsame : Lines.takeRaw ({ u with journal } : World).ending ({ u with journal } : World).input =
      (raw, rest) := htake
  rw [readStandard_of_takeRaw htake, readStandard_of_takeRaw hsame]
  split
  · exact .error _ (.of_journal u hj)
  · exact .ok rfl (.of_journal { u with input := rest } hj)

/-- **To be timeless is a custom.** -/
def Eff.timelessness : Eff.Custom where
  Obeys := Eff.Timeless
  pure := .pure
  bind := .bind
  attempt := .attempt
  raise := .raise
  exhausted := @Eff.Timeless.exhausted
  get_bind := .get_bind
  modifyGet hblind _ := .modifyGet hblind
  newCell _ := .modifyGet fun _ _ => rfl
  writeCell _ _ := .modifyGet fun _ _ => rfl
  readStandard := Console.timeless_readStandard

/-! ### Hosts -/

/-- **A host whose operations are timeless.** -/
def Host.Timeless (h : Host) : Prop := h.Observes Eff.timelessness

namespace Host.Timeless

variable {h : Host} (hh : h.Timeless)
include hh

/-- A timeless host is unaware of the clock and of the messages. -/
theorem unaware : h.Unaware World.Akin where
  applied hw f v := obeys_applied hh f v hw
  performed hw thunk label := obeys_performed hh thunk label hw

variable {settings : Settings} (hp : settings.Plain)
include hp

/-- **Reports are alike** in akin worlds. -/
theorem level_runReport (fuel : Nat) (node : Value) {u w : World} (hw : u.Akin w) :
    Together (Report.Level fun m n => n = m) World.Akin (runReport h fuel settings node u)
      (runReport h fuel settings node w) := by
  cases hn : node.isNode with
  | false =>
    rw [runReport_of_not_isNode hn, runReport_of_not_isNode hn]
    exact .error _ hw
  | true =>
    have hticked : u.ticked.Akin w.ticked := World.kinship_akin.ticked hw
    cases hd : u.ticked.describe? node with
    | error c =>
      have hd' : w.ticked.describe? node = .error c := (hticked.describe?_eq node).trans hd
      rw [runReport_of_undescribed hn hd, runReport_of_undescribed hn hd']
      exact .error _ hticked
    | ok description =>
      have hd' : w.ticked.describe? node = .ok description := (hticked.describe?_eq node).trans hd
      rw [runReport_of_described hn hd, runReport_of_described hn hd']
      have hopened := World.kinship_akin.noted hticked ("Run started: " ++ description)
        ("Run started: " ++ description)
      have hstart : (State.start node).Level (fun m n => n = m) (.start node) := ⟨.refl node, rfl, rfl⟩
      refine (level_drive World.kinship_akin hh.unaware hp reckoning_same fuel hstart hopened).bind ?_
      rintro ⟨e, s⟩ ⟨e', s'⟩ u' w' ⟨he, hs⟩ hw'
      exact level_concluded (E := fun m n => n = m) World.kinship_akin he hs hw' _ _

/-- **A run is timeless:** it gives, or raises, the same in akin worlds. -/
theorem run (fuel : Nat) (node : Value) : Eff.Timeless (Machine.run h fuel settings node) := by
  intro u w hw
  refine (hh.level_runReport hp fuel node hw).bind fun {r r' _ _} hr hu => ?_
  rw [hr.result]
  cases r.result with
  | ok v => exact .ok rfl hu
  | error fault => exact .error _ hu

end Host.Timeless
end EffectGraph
