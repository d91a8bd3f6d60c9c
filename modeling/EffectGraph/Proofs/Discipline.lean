import EffectGraph.Proofs.Habits

/-!
# Disciplines of computations

The library does not look at the journal, and it looks at the cells only to read or overwrite one.  A
custom is a property of computations that all that is done in this way has (`Eff.Custom`).  It is a habit
(`Custom.habit`), so whatever is invoked obeys every custom that the functions of the host observe
(`Host.Observes.invoke`), and so does all that the machine does to run a thunk or a continuation.

A discipline is a custom for whatever does not depend on the messages of the journal, though it may read
the clock (`Eff.Discipline`).
-/

namespace EffectGraph

namespace Eff

/-- **A custom of computations.**  What is done to the world in it depends on nothing in the journal, and
touches the cells in two ways only: one more is made, or one is overwritten. -/
structure Custom where
  Obeys : ∀ {α : Type}, Eff α → Prop
  pure : ∀ {α : Type} (a : α), Obeys (Pure.pure a)
  bind : ∀ {α β : Type} {x : Eff α} {f : α → Eff β}, Obeys x → (∀ a, Obeys (f a)) → Obeys (x >>= f)
  attempt : ∀ {α : Type} {x : Eff α}, Obeys x → Obeys (Eff.attempt x)
  raise : ∀ {α : Type} (fault : Fault Value), Obeys (Eff.raise fault : Eff α)
  exhausted : ∀ {α : Type}, Obeys (Eff.exhausted : Eff α)
  get_bind : ∀ {α : Type} {f : World → Eff α},
    (∀ w journal, f { w with journal } = f w) → (∀ w, Obeys (f w)) → Obeys (MonadState.get >>= f)
  modifyGet : ∀ {α : Type} {g : World → α × World},
    (∀ w journal, g { w with journal } = ((g w).1, { (g w).2 with journal })) →
    (∀ w, (g w).2.cells = w.cells) → Obeys (MonadState.modifyGet g : Eff α)
  newCell : ∀ content, Obeys (World.newCell content)
  writeCell : ∀ address content, Obeys (World.writeCell address content)
  readStandard : Obeys Console.readStandard

/-- **A discipline of computations.**  What is done to the world in it may not depend on the messages
of the journal, and touches the cells in two ways only: one more is made, or one is overwritten. -/
structure Discipline where
  Obeys : ∀ {α : Type}, Eff α → Prop
  pure : ∀ {α : Type} (a : α), Obeys (Pure.pure a)
  bind : ∀ {α β : Type} {x : Eff α} {f : α → Eff β}, Obeys x → (∀ a, Obeys (f a)) → Obeys (x >>= f)
  attempt : ∀ {α : Type} {x : Eff α}, Obeys x → Obeys (Eff.attempt x)
  raise : ∀ {α : Type} (fault : Fault Value), Obeys (Eff.raise fault : Eff α)
  exhausted : ∀ {α : Type}, Obeys (Eff.exhausted : Eff α)
  get_bind : ∀ {α : Type} {f : World → Eff α},
    (∀ w messages, f (w.retold messages) = f w) → (∀ w, Obeys (f w)) → Obeys (MonadState.get >>= f)
  modifyGet : ∀ {α : Type} {g : World → α × World},
    (∀ w messages, g (w.retold messages) = ((g w).1, (g w).2.retold messages)) →
    (∀ w, (g w).2.cells = w.cells) → Obeys (MonadState.modifyGet g : Eff α)
  newCell : ∀ content, Obeys (World.newCell content)
  writeCell : ∀ address content, Obeys (World.writeCell address content)
  readStandard : Obeys Console.readStandard

/-- **A discipline is a custom,** for what changes nothing in the journal changes no messages. -/
def Discipline.custom (d : Discipline) : Custom where
  Obeys := d.Obeys
  pure := d.pure
  bind := d.bind
  attempt := d.attempt
  raise := d.raise
  exhausted := d.exhausted
  get_bind hblind := d.get_bind fun w messages => hblind w { w.journal with messages }
  modifyGet {_ g} hblind := by
    refine d.modifyGet fun w messages => ?_
    have hjournal : (g w).2.journal = w.journal :=
      congrArg (fun r : _ × World => r.2.journal) (hblind w w.journal)
    refine (hblind w { w.journal with messages }).trans ?_
    rw [World.retold, hjournal]
  newCell := d.newCell
  writeCell := d.writeCell
  readStandard := d.readStandard

namespace Custom

variable (d : Custom)

/-- **A custom is a manner.** -/
def manner : Manner where
  Obeys := d.Obeys
  pure := d.pure
  bind := d.bind
  attempt := d.attempt
  raise := d.raise
  exhausted := d.exhausted
  get_bind := d.get_bind

variable {d} {α : Type}

theorem Obeys.ite {c : Prop} [Decidable c] {x y : Eff α} (hx : d.Obeys x) (hy : d.Obeys y) :
    d.Obeys (if c then x else y) := Manner.Obeys.ite (m := d.manner) hx hy

theorem Obeys.modify {g : World → World}
    (hblind : ∀ w journal, g { w with journal } = { g w with journal })
    (hcells : ∀ w, (g w).cells = w.cells) : d.Obeys (modify g : Eff PUnit) :=
  d.modifyGet (fun w journal => congrArg (Prod.mk PUnit.unit) (hblind w journal)) hcells

theorem obeys_pushItem (address : Nat) (item : Value) : d.Obeys (World.pushItem address item) :=
  .modify (fun _ _ => rfl) fun _ => rfl

end Custom
end Eff

/-! ### Customs are habits -/

namespace Console

variable {d : Eff.Custom} {h : Host} (hcall : ∀ v name args, d.manner.Obeys (h.callMethod v name args))
include hcall

theorem obeys_takeFirst (row : Value) : d.manner.Obeys (takeFirst h row) := by
  unfold takeFirst
  split
  · next address =>
    refine .get_bind (fun _ _ => rfl) fun w => ?_
    split
    · exact .complain _
    · next rest _ =>
      have hchange : d.Obeys (World.changeDeque address rest) := .modify (fun _ _ => rfl) fun _ => rfl
      exact .bind hchange fun _ => .pure _
  · exact hcall _ _ _

theorem obeys_readScripted (address : Nat) : d.manner.Obeys (readScripted h address) := by
  have hmodify (change : ScriptedConsole → ScriptedConsole) :
      d.Obeys (World.modifyConsole address change) := .modify (fun _ _ => rfl) fun _ => rfl
  refine .get_bind (fun _ _ => rfl) fun w => .get_bind (fun _ _ => rfl) fun w' => ?_
  refine .ite (.complain_bind _) (.bind (Arithmetic.honours_increase _ _) fun reads => ?_)
  exact .bind (hmodify _) fun _ => obeys_takeFirst hcall _

theorem obeys_writeScripted (address : Nat) (text : Value) :
    d.manner.Obeys (writeScripted h address text) := by
  refine .get_bind (fun _ _ => rfl) fun w => ?_
  split
  · exact .bind (d.obeys_pushItem _ text) fun _ => .pure _
  · exact .bind (hcall _ _ _) fun _ => .pure _

end Console

/-- **A custom is a habit.** -/
def Eff.Custom.habit (d : Custom) : Habit where
  toManner := d.manner
  newList _ := d.modifyGet (fun _ _ => rfl) fun _ => rfl
  newListAddress := d.modifyGet (fun _ _ => rfl) fun _ => rfl
  pushItem := d.obeys_pushItem
  newGenerator _ := d.modifyGet (fun _ _ => rfl) fun _ => rfl
  newCell := d.newCell
  writeCell := d.writeCell
  print _ := Custom.Obeys.modify (fun _ _ => rfl) fun _ => rfl
  readStandard := d.readStandard
  readScripted _ address hcall := Console.obeys_readScripted hcall address
  writeScripted _ address text hcall := Console.obeys_writeScripted hcall address text

/-! ### Hosts -/

/-- **A host whose operations observe a custom.** -/
structure Host.Observes (h : Host) (d : Eff.Custom) : Prop where
  call (f : Value) (args : List Value) (keywords : Keywords) : d.Obeys (h.call f args keywords)
  read (v : Value) (name : String) : d.Obeys (h.read v name)
  openIterator (v : Value) : d.Obeys (h.openIterator v)
  pull (v : Value) : d.Obeys (h.pull v)
  send (generator v : Value) : d.Obeys (h.send generator v)
  close (generator : Value) : d.Obeys (h.close generator)

/-- **A host whose operations obey a discipline.** -/
structure Host.Obeys (h : Host) (d : Eff.Discipline) : Prop where
  call (f : Value) (args : List Value) (keywords : Keywords) : d.Obeys (h.call f args keywords)
  read (v : Value) (name : String) : d.Obeys (h.read v name)
  openIterator (v : Value) : d.Obeys (h.openIterator v)
  pull (v : Value) : d.Obeys (h.pull v)
  send (generator v : Value) : d.Obeys (h.send generator v)
  close (generator : Value) : d.Obeys (h.close generator)

/-- A discipline that is obeyed is a custom that is observed. -/
theorem Host.Obeys.observes {h : Host} {d : Eff.Discipline} (hh : h.Obeys d) : h.Observes d.custom :=
  ⟨hh.call, hh.read, hh.openIterator, hh.pull, hh.send, hh.close⟩

theorem Host.obeys_spent {d : Eff.Discipline} : Host.spent.Obeys d where
  call _ _ _ := d.exhausted
  read _ _ := d.exhausted
  openIterator _ := d.exhausted
  pull _ := d.exhausted
  send _ _ := d.exhausted
  close _ := d.exhausted

namespace Host

variable {d : Eff.Custom} {h : Host}

theorem observes_spent : Host.spent.Observes d where
  call _ _ _ := d.exhausted
  read _ _ := d.exhausted
  openIterator _ := d.exhausted
  pull _ := d.exhausted
  send _ _ := d.exhausted
  close _ := d.exhausted

theorem Observes.honours (hh : h.Observes d) : h.Honours d.habit :=
  ⟨hh.call, hh.read, hh.openIterator, hh.pull, hh.send, hh.close⟩

/-- **Whatever is invoked obeys,** over a host that does. -/
theorem Observes.invoke (hh : h.Observes d) (f : Value) (args : List Value) :
    d.Obeys (h.invoke f args) :=
  hh.honours.invoke f args

theorem Obeys.invoke {d : Eff.Discipline} (hh : h.Obeys d) (f : Value) (args : List Value) :
    d.Obeys (h.invoke f args) := hh.observes.invoke f args

end Host

variable {d : Eff.Custom} {h : Host}

theorem Update.obeys_run (hh : h.Observes d) (content : Value) (update : Update Value) :
    d.Obeys (update.run h content) := update.honours_run hh.honours content

namespace Machine

theorem obeys_applied (hh : h.Observes d) (f v : Value) : d.Obeys (applied h f v) := by
  refine d.bind (d.attempt (hh.invoke f [v])) fun r => ?_
  cases r with
  | error fault => exact d.get_bind (fun _ _ => rfl) fun _ => d.pure _
  | ok next => exact .ite (d.pure _) (d.get_bind (fun _ _ => rfl) fun _ => d.pure _)

theorem obeys_performed (hh : h.Observes d) (thunk label : Value) :
    d.Obeys (performed h thunk label) := by
  refine d.bind (d.attempt (hh.invoke thunk [])) fun r => ?_
  cases r with
  | error fault => exact d.get_bind (fun _ _ => rfl) fun _ => d.pure _
  | ok value => exact d.pure _

end Machine
end EffectGraph
