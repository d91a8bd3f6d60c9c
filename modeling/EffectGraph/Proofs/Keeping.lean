import EffectGraph.Proofs.WellBuilt

/-!
# Computations that keep values well built

A world is well built if all values are that it holds.  `Eff.Keeps P x` says that `x`, done in such a
world, leaves such a world, gives a value with the property `P` if it gives one, and raises a well
built fault if it raises one.  A host keeps (`Host.Keeps`) if its operations do this for well built
operands: whatever functions, iterables and generators it offers, they build their nodes with the
library.
-/

namespace EffectGraph

/-! ### Worlds -/

/-- The values that an iterator holds. -/
def Iteration.parts : Iteration → List Value
  | .items rest => rest
  | .lazy _ count f => [count, f]
  | .indexed source _ _ => [source]
  | _ => []

/-- The values that an ending of a generator body holds. -/
def Completion.parts : Completion → List Value
  | .normal => []
  | .returned value => [value]
  | .raised fault => [.fault fault]

/-- The values that a task of a generator body holds. -/
def Task.parts : Task → List Value
  | .each _ iterator _ => [iterator]
  | .handled fault => [.fault fault]
  | .finish completion => completion.parts
  | _ => []

/-- The values that a stage of the dialogue holds. -/
def DialogueStage.parts : DialogueStage → List Value
  | .number text => [text]
  | _ => []

/-- The values that a generator holds. -/
def Generator.parts : Generator → List Value
  | .script _ _ tasks scope => tasks.flatMap Task.parts ++ scope.flatMap Layer.parts
  | .dialogue console stage => console :: stage.parts
  | .running => []
  | .finished => []

/-- **A world that holds well built values only.** -/
structure World.WellBuilt (w : World) : Prop where
  globals : ∀ e ∈ w.globals, e.2.WellBuilt
  layers : ∀ layer ∈ w.layers, ∀ e ∈ layer, e.2.WellBuilt
  lists : ∀ items ∈ w.lists, ∀ v ∈ items, v.WellBuilt
  dicts : ∀ d ∈ w.dicts, ∀ v ∈ entryParts d.entries, v.WellBuilt
  deques : ∀ d ∈ w.deques, ∀ v ∈ d.items, v.WellBuilt
  cells : ∀ v ∈ w.cells, v.WellBuilt
  stats : ∀ s ∈ w.stats, ∀ v ∈ s.toList, v.WellBuilt
  runStates : ∀ s ∈ w.runStates, s.current.WellBuilt ∧ s.stack.WellBuilt ∧ s.stats.WellBuilt
  iterators : ∀ i ∈ w.iterators, ∀ v ∈ i.parts, v.WellBuilt
  generators : ∀ g ∈ w.generators, ∀ v ∈ g.parts, v.WellBuilt
  consoles : ∀ c ∈ w.consoles, c.pending.WellBuilt ∧ c.written.WellBuilt ∧ c.reads.WellBuilt
  counters : ∀ v ∈ entryParts w.counters.entries, v.WellBuilt
  attributes : ∀ e ∈ w.attributes, e.2.WellBuilt

namespace World.WellBuilt

variable {w : World} (hw : w.WellBuilt)
include hw

/-- What a cell holds is well built. -/
theorem cell (address : Nat) : (w.cells[address]?.getD .none).WellBuilt := by
  rcases hc : w.cells[address]? with _ | v
  · exact Value.wellBuilt_none
  · exact hw.cells v (Array.mem_of_getElem? hc)

/-- The items of a list are well built. -/
theorem listItems {address : Nat} {v : Value} (hv : v ∈ w.listItems address) : v.WellBuilt := by
  rw [World.listItems] at hv
  rcases hl : w.lists[address]? with _ | items
  · rw [hl] at hv
    exact absurd hv (Array.not_mem_empty v)
  · rw [hl] at hv
    exact hw.lists items (Array.mem_of_getElem? hl) v hv

/-- The items of a row that grows and shrinks are well built. -/
theorem dequeItems {address : Nat} {v : Value} (hv : v ∈ (w.dequeAt address).items) :
    v.WellBuilt := by
  rw [World.dequeAt] at hv
  rcases hd : w.deques[address]? with _ | d
  · rw [hd] at hv
    exact absurd hv List.not_mem_nil
  · rw [hd] at hv
    exact hw.deques d (Array.mem_of_getElem? hd) v hv

/-- The entries of a dictionary are well built. -/
theorem dictEntries {address : Nat} {e : Value × Value} (he : e ∈ w.dictEntries address) :
    e.1.WellBuilt ∧ e.2.WellBuilt := by
  rw [World.dictEntries, World.dictAt] at he
  rcases hd : w.dicts[address]? with _ | d
  · rw [hd] at he
    exact absurd he List.not_mem_nil
  · rw [hd] at he
    have hparts := hw.dicts d (Array.mem_of_getElem? hd)
    exact ⟨hparts e.1 (List.mem_flatMap.mpr ⟨e, he, List.mem_cons_self⟩),
      hparts e.2 (List.mem_flatMap.mpr ⟨e, he, List.mem_cons_of_mem _ List.mem_cons_self⟩)⟩

/-- What a scripted console holds is well built. -/
theorem console (address : Nat) : (w.consoleAt address).pending.WellBuilt ∧
    (w.consoleAt address).written.WellBuilt ∧ (w.consoleAt address).reads.WellBuilt := by
  rw [World.consoleAt]
  rcases hc : w.consoles[address]? with _ | c
  · exact ⟨Value.wellBuilt_none, Value.wellBuilt_none, Value.wellBuilt_int 0⟩
  · exact hw.consoles c (Array.mem_of_getElem? hc)

/-- The attributes that scripts have given to an object are well built. -/
theorem given {v a : Value} {name : String} (ha : w.given? v name = some a) : a.WellBuilt := by
  obtain ⟨i, -, hi⟩ := Option.bind_eq_some_iff.mp ha
  obtain ⟨before, after, heq, -⟩ := List.lookup_eq_some_iff.mp hi
  refine hw.attributes ((i, name), a) ?_
  rw [heq]
  exact List.mem_append_right _ List.mem_cons_self

end World.WellBuilt

/-! ### Computations -/

namespace Eff

variable {α β : Type} {P : α → Prop} {Q : β → Prop} {x : Eff α} {f : α → Eff β}

/-- **What is left by a computation in a well built world is well built,** and so is the fault it
raises; the value it gives has a property. -/
def Keeps (P : α → Prop) (x : Eff α) : Prop :=
  ∀ w, w.WellBuilt → match x w with
    | .ok a w' => P a ∧ w'.WellBuilt
    | .error (.raised fault) w' => fault.WellBuilt ∧ w'.WellBuilt
    | .error .exhausted _ => True

namespace Keeps

theorem pure {a : α} (ha : P a) : Keeps P (Pure.pure a) := fun _ hw => ⟨ha, hw⟩

theorem bind (hx : Keeps P x) (hf : ∀ a, P a → Keeps Q (f a)) : Keeps Q (x >>= f) := by
  intro w hw
  have hxw := hx w hw
  cases hr : x w with
  | ok a w₁ =>
    rw [hr] at hxw
    rw [bind_of_ok hr]
    exact hf a hxw.1 w₁ hxw.2
  | error e w₁ =>
    rw [hr] at hxw
    rw [bind_of_error hr]
    cases e with
    | raised fault => exact hxw
    | exhausted => trivial

theorem ite {c : Prop} [Decidable c] {y : Eff α} (hx : Keeps P x) (hy : Keeps P y) :
    Keeps P (if c then x else y) := by
  split
  · exact hx
  · exact hy

/-- The world that is read is well built. -/
theorem get : Keeps World.WellBuilt (MonadState.get : Eff World) := fun _ hw => ⟨hw, hw⟩

theorem modifyGet {g : World → α × World}
    (hg : ∀ w, w.WellBuilt → P (g w).1 ∧ (g w).2.WellBuilt) :
    Keeps P (MonadState.modifyGet g : Eff α) := fun w hw => hg w hw

theorem modify {g : World → World} (hg : ∀ w, w.WellBuilt → (g w).WellBuilt) :
    Keeps (fun _ => True) (modify g : Eff PUnit) := fun w hw => ⟨trivial, hg w hw⟩

theorem set {w' : World} (hw' : w'.WellBuilt) :
    Keeps (fun _ => True) (MonadState.set w' : Eff PUnit) := fun _ _ => ⟨trivial, hw'⟩

theorem raise {fault : Fault Value} (hfault : fault.WellBuilt) : Keeps P (Eff.raise fault) :=
  fun _ hw => ⟨hfault, hw⟩

/-- Nothing follows a fault that is raised. -/
theorem raise_bind {fault : Fault Value} (hfault : fault.WellBuilt) :
    Keeps Q (Eff.raise fault >>= f) := fun _ hw => ⟨hfault, hw⟩

theorem complain (c : Complaint) : Keeps P (Eff.complain c) := raise c.wellBuilt_fault

theorem complain_bind (c : Complaint) : Keeps Q (Eff.complain c >>= f) :=
  raise_bind c.wellBuilt_fault

/-- A refusal is a complaint, which is well built. -/
theorem ofExcept {r : Except Complaint α} (hr : ∀ a, r = .ok a → P a) : Keeps P (Eff.ofExcept r) := by
  cases r with
  | ok a => exact pure (hr a rfl)
  | error c => exact complain c

/-- The fault that was raised is a value of what was attempted. -/
theorem attempt (hx : Keeps P x) :
    Keeps (fun r => match r with
      | .ok a => P a
      | .error fault => fault.WellBuilt) (Eff.attempt x) := by
  intro w hw
  have hxw := hx w hw
  unfold Eff.attempt
  cases hr : x w with
  | ok a w₁ =>
    rw [hr] at hxw
    exact hxw
  | error e w₁ =>
    rw [hr] at hxw
    cases e with
    | raised fault => exact hxw
    | exhausted => trivial

/-- What a computation that keeps gives. -/
theorem of_ok (hx : Keeps P x) {w w' : World} (hw : w.WellBuilt) {a : α} (hr : x w = .ok a w') :
    P a ∧ w'.WellBuilt := by
  have hxw := hx w hw
  rw [hr] at hxw
  exact hxw

end Keeps
end Eff

/-! ### Hosts -/

/-- The value that a generator answers with. -/
def Resumption.value : Resumption → Value
  | .yielded v => v
  | .returned v => v

/-- **A host whose operations keep values well built.** -/
structure Host.Keeps (h : Host) : Prop where
  call {f args keywords} : f.WellBuilt → (∀ a ∈ args, a.WellBuilt) →
    (∀ e ∈ keywords, e.2.WellBuilt) → Eff.Keeps Value.WellBuilt (h.call f args keywords)
  read {v} (name : String) : v.WellBuilt → Eff.Keeps Value.WellBuilt (h.read v name)
  openIterator {v} : v.WellBuilt → Eff.Keeps Value.WellBuilt (h.openIterator v)
  pull {v} : v.WellBuilt → Eff.Keeps (fun r => ∀ e ∈ r, e.WellBuilt) (h.pull v)
  send {generator v} : generator.WellBuilt → v.WellBuilt →
    Eff.Keeps (fun r => r.value.WellBuilt) (h.send generator v)
  close {generator} : generator.WellBuilt → Eff.Keeps (fun _ => True) (h.close generator)

/-- What a method gives is well built. -/
theorem Host.Keeps.callMethod {h : Host} (hh : h.Keeps) {v : Value} (hv : v.WellBuilt) (name : String)
    {args : List Value} (hargs : ∀ a ∈ args, a.WellBuilt) :
    Eff.Keeps Value.WellBuilt (h.callMethod v name args) :=
  .bind (hh.read name hv) fun _ hf => hh.call hf hargs fun _ he => absurd he List.not_mem_nil

/-! ### What the library does to the world -/

/-- What holds of all elements of an array still does if one is changed and the change keeps it. -/
theorem forall_mem_modify {α : Type} {P : α → Prop} {xs : Array α} {g : α → α}
    (hxs : ∀ x ∈ xs, P x) (hg : ∀ x, P x → P (g x)) (i : Nat) : ∀ x ∈ xs.modify i g, P x := by
  intro x hx
  obtain ⟨j, hj, rfl⟩ := Array.mem_iff_getElem.mp hx
  rw [Array.getElem_modify]
  split
  · exact hg _ (hxs _ (Array.getElem_mem _))
  · exact hxs _ (Array.getElem_mem _)

namespace World

variable {v : Value}

theorem keeps_newList {items : Array Value} (hitems : ∀ v ∈ items, v.WellBuilt) :
    Eff.Keeps Value.WellBuilt (newList items) :=
  .modifyGet fun _ hw => ⟨Value.wellBuilt_list _,
    { hw with lists := Array.forall_mem_push.mpr ⟨hitems, hw.lists⟩ }⟩

theorem keeps_newListAddress : Eff.Keeps (fun _ => True) newListAddress :=
  .modifyGet fun _ hw => ⟨trivial,
    { hw with lists := Array.forall_mem_push.mpr ⟨fun v hv => absurd hv (Array.not_mem_empty v),
      hw.lists⟩ }⟩

theorem keeps_listSize (address : Nat) : Eff.Keeps (fun _ => True) (listSize address) :=
  .bind .get fun _ _ => .pure trivial

theorem keeps_pushItem (address : Nat) (hv : v.WellBuilt) :
    Eff.Keeps (fun _ => True) (pushItem address v) :=
  .modify fun _ hw => { hw with
    lists := forall_mem_modify hw.lists (fun _ hl => Array.forall_mem_push.mpr ⟨hv, hl⟩) address }

theorem keeps_changeDeque (address : Nat) {items : List Value} (hitems : ∀ v ∈ items, v.WellBuilt) :
    Eff.Keeps (fun _ => True) (changeDeque address items) :=
  .modify fun _ hw => { hw with
    deques := forall_mem_modify (g := fun d => ⟨items, d.changes + 1⟩) hw.deques
      (fun _ _ => hitems) address }

theorem keeps_newCell (hv : v.WellBuilt) : Eff.Keeps Value.WellBuilt (newCell v) :=
  .modifyGet fun _ hw => ⟨Value.wellBuilt_cell _,
    { hw with cells := Array.forall_mem_push.mpr ⟨hv, hw.cells⟩ }⟩

theorem keeps_readCell (address : Nat) : Eff.Keeps Value.WellBuilt (readCell address) :=
  .bind .get fun _ hw => .pure (hw.cell address)

theorem keeps_writeCell (address : Nat) (hv : v.WellBuilt) :
    Eff.Keeps (fun _ => True) (writeCell address v) := by
  refine .modify fun w hw => { hw with cells := ?_ }
  intro x hx
  rcases Array.mem_or_eq_of_mem_setIfInBounds hx with hx | rfl
  · exact hw.cells x hx
  · exact hv

theorem keeps_cellName (address : Nat) : Eff.Keeps (fun _ => True) (cellName address) :=
  .bind .get fun _ _ => .ofExcept fun _ _ => trivial

theorem keeps_newGenerator {start : Generator} (hstart : ∀ v ∈ start.parts, v.WellBuilt) :
    Eff.Keeps Value.WellBuilt (newGenerator start) :=
  .modifyGet fun _ hw => ⟨Value.wellBuilt_generator _,
    { hw with generators := Array.forall_mem_push.mpr ⟨hstart, hw.generators⟩ }⟩

theorem keeps_modifyConsole (address : Nat) {change : ScriptedConsole → ScriptedConsole}
    (hchange : ∀ c, c.pending.WellBuilt ∧ c.written.WellBuilt ∧ c.reads.WellBuilt →
      (change c).pending.WellBuilt ∧ (change c).written.WellBuilt ∧ (change c).reads.WellBuilt) :
    Eff.Keeps (fun _ => True) (modifyConsole address change) :=
  .modify fun _ hw => { hw with
    consoles := forall_mem_modify hw.consoles hchange address }

theorem keeps_print (text : String) : Eff.Keeps (fun _ => True) (print text) :=
  .modify fun _ hw => { hw with }

end World
end EffectGraph
