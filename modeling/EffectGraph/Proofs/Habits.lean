import EffectGraph.Proofs.Alike

/-!
# Habits of computations

What the library does to the world it does through few operations, and it does not look at the journal.
A manner is a property of computations that whatever is made of them in the usual ways has, too
(`Eff.Manner`); it is a habit if the operations of the library have it (`Eff.Habit`).  Numbers, consoles,
callbacks and methods honour every habit that the functions of the host honour (`Host.Honours.invoke`).
-/

namespace EffectGraph

namespace World

variable (w : World) (journal : Journal) (v : Value)

/-- No text tells the journal. -/
theorem str?_journal : ({ w with journal } : World).str? v = w.str? v := str?_untold v journal w.iterators

theorem repr?_journal : ({ w with journal } : World).repr? v = w.repr? v :=
  repr?_untold v journal w.iterators

end World

namespace Eff

/-- **A manner of computations:** whatever is made of them in the usual ways has it, as long as it does
not look at the journal. -/
structure Manner where
  Obeys : ∀ {α : Type}, Eff α → Prop
  pure : ∀ {α : Type} (a : α), Obeys (Pure.pure a)
  bind : ∀ {α β : Type} {x : Eff α} {f : α → Eff β}, Obeys x → (∀ a, Obeys (f a)) → Obeys (x >>= f)
  attempt : ∀ {α : Type} {x : Eff α}, Obeys x → Obeys (Eff.attempt x)
  raise : ∀ {α : Type} (fault : Fault Value), Obeys (Eff.raise fault : Eff α)
  exhausted : ∀ {α : Type}, Obeys (Eff.exhausted : Eff α)
  get_bind : ∀ {α : Type} {f : World → Eff α},
    (∀ w journal, f { w with journal } = f w) → (∀ w, Obeys (f w)) → Obeys (MonadState.get >>= f)

/-- **A habit of computations** is a manner of what the library itself does to the world.  Whatever
stands in the place of the lines or of the list of a scripted console has to be in this manner, too. -/
structure Habit extends Manner where
  newList : ∀ items, Obeys (World.newList items)
  newListAddress : Obeys World.newListAddress
  pushItem : ∀ address item, Obeys (World.pushItem address item)
  newGenerator : ∀ start, Obeys (World.newGenerator start)
  newCell : ∀ content, Obeys (World.newCell content)
  writeCell : ∀ address content, Obeys (World.writeCell address content)
  print : ∀ text, Obeys (World.print text)
  readStandard : Obeys Console.readStandard
  readScripted : ∀ (h : Host) (address : Nat),
    (∀ v name args, Obeys (h.callMethod v name args)) → Obeys (Console.readScripted h address)
  writeScripted : ∀ (h : Host) (address : Nat) (text : Value),
    (∀ v name args, Obeys (h.callMethod v name args)) → Obeys (Console.writeScripted h address text)

namespace Manner.Obeys

variable {m : Manner} {α β : Type} {x y : Eff α}

theorem pure (a : α) : m.Obeys (Pure.pure a : Eff α) := m.pure a

theorem bind {f : α → Eff β} (hx : m.Obeys x) (hf : ∀ a, m.Obeys (f a)) : m.Obeys (x >>= f) :=
  m.bind hx hf

theorem attempt (hx : m.Obeys x) : m.Obeys (Eff.attempt x) := m.attempt hx

theorem ite {c : Prop} [Decidable c] (hx : m.Obeys x) (hy : m.Obeys y) :
    m.Obeys (if c then x else y) := by
  split
  · exact hx
  · exact hy

theorem get_bind {f : World → Eff α} (hblind : ∀ w journal, f { w with journal } = f w)
    (hf : ∀ w, m.Obeys (f w)) : m.Obeys (MonadState.get >>= f) := m.get_bind hblind hf

theorem raise (fault : Fault Value) : m.Obeys (Eff.raise fault : Eff α) := m.raise fault

/-- Nothing follows a fault that is raised. -/
theorem raise_bind (fault : Fault Value) {f : α → Eff β} : m.Obeys (Eff.raise fault >>= f) :=
  m.raise fault

theorem complain (c : Complaint) : m.Obeys (Eff.complain c : Eff α) := raise c.fault

theorem complain_bind (c : Complaint) {f : α → Eff β} : m.Obeys (Eff.complain c >>= f) :=
  raise_bind c.fault

theorem ofExcept (r : Except Complaint α) : m.Obeys (Eff.ofExcept r) := by
  cases r with
  | ok a => exact pure a
  | error c => exact complain c

end Manner.Obeys
end Eff

/-! ### What is done without touching the world -/

section manner

variable {m : Eff.Manner}

namespace World

theorem honours_listSize (address : Nat) : m.Obeys (listSize address) :=
  .get_bind (fun _ _ => rfl) fun _ => .pure _

theorem honours_readCell (address : Nat) : m.Obeys (readCell address) :=
  .get_bind (fun _ _ => rfl) fun _ => .pure _

theorem honours_cellName (address : Nat) : m.Obeys (cellName address) :=
  .get_bind (fun w journal => by rw [str?_journal]) fun _ => .ofExcept _

end World

theorem Arithmetic.honours_increase (v amount : Value) : m.Obeys (increase v amount) := by
  unfold increase
  split
  · exact .complain _
  · exact .complain _
  · exact .ofExcept _
  · exact .complain _

namespace Reading

theorem honours_int (v : Value) : m.Obeys (int v) := by
  unfold int
  split
  · exact .pure _
  · exact .pure _
  · split
    · exact .pure _
    · exact .complain _
    · exact .complain _
  · split
    · exact .pure _
    · exact .complain _
    · exact .complain _
  · exact .complain _

theorem honours_float (v : Value) : m.Obeys (float v) := by
  unfold float
  split
  · exact .pure _
  · split
    · exact .pure _
    · exact .complain _
  · split
    · exact .bind (.ofExcept _) fun _ => .pure _
    · exact .complain _

end Reading

end manner

/-! ### Hosts -/

/-- **A host whose operations honour a habit.** -/
structure Host.Honours (h : Host) (d : Eff.Habit) : Prop where
  call (f : Value) (args : List Value) (keywords : Keywords) : d.Obeys (h.call f args keywords)
  read (v : Value) (name : String) : d.Obeys (h.read v name)
  openIterator (v : Value) : d.Obeys (h.openIterator v)
  pull (v : Value) : d.Obeys (h.pull v)
  send (generator v : Value) : d.Obeys (h.send generator v)
  close (generator : Value) : d.Obeys (h.close generator)

variable {d : Eff.Habit} {h : Host}

theorem Host.honours_spent : Host.spent.Honours d where
  call _ _ _ := d.exhausted
  read _ _ := d.exhausted
  openIterator _ := d.exhausted
  pull _ := d.exhausted
  send _ _ := d.exhausted
  close _ := d.exhausted

/-- A method honours it. -/
theorem Host.Honours.callMethod (hh : h.Honours d) (v : Value) (name : String) (args : List Value) :
    d.Obeys (h.callMethod v name args) :=
  .bind (hh.read v name) fun f => hh.call f args []

/-! ### Numbers -/

namespace Arithmetic

theorem honours_refuse (a b : Value) : d.Obeys (multiply.refuse a b) :=
  .ite (.complain _) (.ite (.complain _) (.complain _))

theorem honours_row (v : Value) (n : Int) (a b : Value) : d.Obeys (multiply.row v n a b) := by
  unfold multiply.row
  split
  · exact .pure _
  · exact .pure _
  · exact .get_bind (fun _ _ => rfl) fun _ => d.newList _
  · exact honours_refuse a b

theorem honours_multiply (a b : Value) : d.Obeys (multiply a b) := by
  unfold multiply
  split
  · exact .bind (.ofExcept _) fun _ => .pure _
  · exact honours_row _ _ _ _
  · exact honours_row _ _ _ _
  · exact honours_refuse a b

end Arithmetic

theorem Value.honours_parseNumber (hh : h.Honours d) (v : Value) : d.Obeys (v.parseNumber h) := by
  unfold parseNumber
  split
  · split
    · exact .pure _
    · exact .raise _
  · refine .bind (hh.callMethod _ _ _) fun stripped => ?_
    refine .bind (.attempt (Reading.honours_int stripped)) fun r => ?_
    cases r with
    | ok n => exact .pure _
    | error fault =>
      refine .ite (.raise_bind _) (.bind (.attempt (Reading.honours_float stripped)) fun r => ?_)
      cases r with
      | ok x => exact .pure _
      | error fault =>
        refine .ite (.raise_bind _) (.get_bind (fun w journal => ?_) fun w => ?_)
        · rw [World.repr?_journal]
        · exact .bind (.ofExcept _) fun _ => .raise _

/-! ### Consoles -/

namespace Console

theorem honours_cutEnd (v : Value) (count : Nat) : d.Obeys (cutEnd v count) := by
  unfold cutEnd
  split
  · exact .pure _
  · exact .complain _

theorem honours_stripTerminator (hh : h.Honours d) (line : Value) : d.Obeys (stripTerminator h line) := by
  unfold stripTerminator
  split
  · exact .pure _
  · have hends (terminator : String) : d.Obeys (do
        let answer ← h.callMethod line "endswith" [.str terminator]
        return (← get).isTruthy answer) :=
      .bind (hh.callMethod _ _ _) fun _ => .get_bind (fun _ _ => rfl) fun _ => .pure _
    refine .bind (hends _) fun _ => .ite (honours_cutEnd _ _) ?_
    refine .bind (hends _) fun _ => .ite (honours_cutEnd _ _) ?_
    exact .bind (hends _) fun _ => .ite (honours_cutEnd _ _) (.pure _)

theorem honours_readLineFrom (hh : h.Honours d) (input : Value) : d.Obeys (readLineFrom h input) := by
  unfold readLineFrom
  split
  · exact d.readStandard
  · refine .bind (hh.callMethod _ _ _) fun line => ?_
    split
    · exact .complain _
    · exact honours_stripTerminator hh line

theorem honours_writeLineTo (hh : h.Honours d) (output text : Value) :
    d.Obeys (writeLineTo h output text) := by
  have hshown {α : Type} {f : String → Eff α} (hf : ∀ shown, d.Obeys (f shown)) : d.Obeys (do
      let shown ← Eff.ofExcept ((← get).str? text)
      f shown) :=
    .get_bind (fun w journal => by rw [World.str?_journal]) fun w => .bind (.ofExcept _) hf
  unfold writeLineTo
  split
  · exact hshown fun _ => .bind (d.print _) fun _ => .pure _
  · refine .bind (hh.read _ _) fun write => hshown fun line => ?_
    exact .bind (hh.call _ _ _) fun _ => .bind (hh.callMethod _ _ _) fun _ => .pure _

theorem honours_readStream (hh : h.Honours d) (console input : Value) :
    d.Obeys (readStream h console input) :=
  .get_bind (fun _ _ => rfl) fun _ => honours_readLineFrom hh _

theorem honours_writeStream (hh : h.Honours d) (console output text : Value) :
    d.Obeys (writeStream h console output text) :=
  .get_bind (fun _ _ => rfl) fun _ => honours_writeLineTo hh _ _

theorem honours_writer (hh : h.Honours d) (console : Value) : d.Obeys (writer h console) := by
  refine .get_bind (fun _ _ => rfl) fun w => ?_
  split
  · exact .pure _
  · exact .pure _
  · exact hh.read _ _

theorem honours_printLine (hh : h.Honours d) (console value : Value) :
    d.Obeys (printLine h console value) := by
  refine .bind (honours_writer hh console) fun write => .get_bind (fun w journal => ?_) fun w => ?_
  · rw [World.str?_journal]
  · refine .bind (.ofExcept _) fun text => .get_bind (fun _ _ => rfl) fun w => ?_
    exact .bind (.ofExcept _) fun preset => .ofExcept _

end Console

namespace Sample

theorem honours_printCelsius (hh : h.Honours d) (console degrees : Value) :
    d.Obeys (printCelsius h console degrees) :=
  .bind (.ofExcept _) fun _ => .bind (Console.honours_printLine hh _ _) fun _ => .pure _

theorem honours_multiplyUp (hh : h.Honours d) (n accumulator : Value) :
    d.Obeys (multiplyUp h n accumulator) := by
  refine .bind (.ofExcept _) fun stop => ?_
  cases accumulator with
  | cell address =>
    exact .bind (World.honours_cellName address) fun name => .bind (.pure _) fun last => .ofExcept _
  | _ => exact .bind (hh.callMethod _ _ _) fun last => .ofExcept _

end Sample

/-! ### Callbacks -/

theorem Value.honours_skipped (hh : h.Honours d) (v : Value) : d.Obeys (v.skipped h) := by
  unfold skipped
  split
  · exact hh.callMethod _ _ _
  · exact .pure _
  · exact hh.callMethod _ _ _

theorem Mapper.honours_run (hh : h.Honours d) (element : Value) (mapper : Mapper Value) :
    d.Obeys (mapper.run h element) := by
  cases mapper with
  | apply f => exact hh.call _ _ _
  | same => exact .pure _
  | scale cell =>
    cases cell with
    | cell address => exact .bind (World.honours_cellName address) fun _ => .pure _
    | _ => exact hh.callMethod _ _ _

theorem Combiner.honours_run (hh : h.Honours d) (first second : Value) (combiner : Combiner Value) :
    d.Obeys (combiner.run h first second) := by
  cases combiner with
  | apply f => exact hh.call _ _ _
  | pair => exact .pure _

theorem Update.honours_run (hh : h.Honours d) (content : Value) (update : Update Value) :
    d.Obeys (update.run h content) := by
  cases update with
  | apply f => exact hh.call _ _ _
  | multiply factor => exact Arithmetic.honours_multiply _ _

theorem FoldStep.honours_run (hh : h.Honours d) (accumulator element : Value) (step : FoldStep Value) :
    d.Obeys (step.run h accumulator element) := by
  cases step with
  | apply f => exact hh.call _ _ _
  | discard mapper => exact .bind (mapper.honours_run hh element) fun node => node.honours_skipped hh
  | collect results mapper => exact .bind (mapper.honours_run hh element) fun _ => .pure _
  | again node => exact node.honours_skipped hh

theorem honours_foldRound (hh : h.Honours d) (iterator : Value) (step : FoldStep Value)
    (accumulator : Value) : d.Obeys (foldRound h iterator step accumulator) := by
  refine .bind (hh.pull iterator) fun r => ?_
  cases r with
  | none => exact .pure _
  | some element => exact .bind (step.honours_run hh accumulator element) fun _ => .pure _

theorem honours_replicateRound (results : Nat) (count : Int) (node : Value) :
    d.Obeys (replicateRound results count node) :=
  .bind (World.honours_listSize results) fun _ => .ite (.pure _) (.pure _)

theorem honours_resumeGenerator (hh : h.Honours d) (generator sent : Value) :
    d.Obeys (resumeGenerator h generator sent) := by
  refine .bind (hh.send generator sent) fun r => ?_
  cases r with
  | returned v => exact .pure _
  | yielded v => exact .ite (.pure _) (.bind (hh.close generator) fun _ => .complain _)

theorem honours_startProduced (hh : h.Honours d) (produced : Value) :
    d.Obeys (startProduced h produced) := by
  cases produced with
  | generator address => exact honours_resumeGenerator hh _ _
  | _ => exact .pure _

theorem Factory.honours_build (hh : h.Honours d) (factory : Factory Value) :
    d.Obeys (factory.build h) := by
  cases factory with
  | apply f => exact hh.call _ _ _
  | fold elements initial step =>
    exact .bind (hh.openIterator elements) fun iterator => honours_foldRound hh iterator step initial
  | traverse items mapper => exact .bind d.newListAddress fun _ => .pure _
  | replicate count node =>
    exact .bind d.newListAddress fun _ => honours_replicateRound _ _ _
  | doWhile body condition => exact .pure _
  | whileLoop condition body => exact .pure _
  | forever node => exact .pure _
  | generate f args keywords =>
    exact .bind (hh.call f args keywords) fun produced => honours_startProduced hh produced

/-! ### What is invoked -/

/-- **Every callback honours a habit.** -/
theorem Callback.honours_run (hh : h.Honours d) (c : Callback Value) (args : List Value) :
    d.Obeys (c.run h args) := by
  unfold run
  -- most callbacks give their node at once
  split <;> try exact .pure _
  · exact .bind (hh.call _ _ _) fun _ => .pure _
  · exact Factory.honours_build hh _
  · exact .bind (Combiner.honours_run hh _ _ _) fun _ => .pure _
  · exact honours_foldRound hh _ _ _
  · exact .bind (d.pushItem _ _) fun _ => .pure _
  · exact .bind (d.pushItem _ _) fun _ => honours_replicateRound _ _ _
  · exact .bind (hh.call _ _ _) fun _ => .pure _
  · exact .get_bind (fun _ _ => rfl) fun _ => .pure _
  · exact .get_bind (fun _ _ => rfl) fun _ => .pure _
  · exact honours_resumeGenerator hh _ _
  · exact Sample.honours_multiplyUp hh _ _
  · exact Sample.honours_printCelsius hh _ _
  · exact .raise _
  · exact .bind (d.writeCell _ _) fun _ => .pure _
  · refine .bind (World.honours_readCell _) fun content => .bind (Update.honours_run hh _ _) fun _ => ?_
    exact .bind (d.writeCell _ _) fun _ => .pure _
  · exact d.newCell _
  · exact Value.honours_parseNumber hh _
  · exact Arithmetic.honours_multiply _ _
  · exact d.newGenerator _
  · exact .complain _

theorem Method.honours_run? (hh : h.Honours d) {m : Method} {v : Value} {args : List Value}
    {action : Eff Value} (hm : m.run? h v args = some action) : d.Obeys action := by
  unfold run? at hm
  split at hm
  · obtain rfl := Option.some.inj hm
    exact World.honours_readCell _
  · obtain rfl := Option.some.inj hm
    exact d.readScripted _ _ hh.callMethod
  · obtain rfl := Option.some.inj hm
    exact d.writeScripted _ _ _ hh.callMethod
  · obtain rfl := Option.some.inj hm
    exact Console.honours_readStream hh _ _
  · obtain rfl := Option.some.inj hm
    exact Console.honours_writeStream hh _ _ _
  · cases hm

/-- **Whatever is invoked honours a habit,** over a host that does. -/
theorem Host.Honours.invoke (hh : h.Honours d) (f : Value) (args : List Value) :
    d.Obeys (h.invoke f args) := by
  fun_induction h.invoke f args with
  | case1 => exact Callback.honours_run hh _ _
  | case2 _ _ _ _ _ hm => exact Method.honours_run? hh hm
  | case3 => exact hh.call _ _ _
  | case4 =>
    rename_i htarget
    exact .get_bind (fun _ _ => rfl) fun _ => .ite (hh.call _ _ _) htarget
  | case5 => exact hh.call _ _ _

end EffectGraph
