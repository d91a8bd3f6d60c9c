import EffectGraph.Proofs.Discipline

/-!
# The library does not heed messages

Scripts cannot read the journal, and what the library does for them when a node is run does not either.
To be deaf is a discipline (`Eff.deafness`): so callbacks and methods are deaf over any host that is
(`Host.Deaf.invoke`), and so is all that the machine does to run a thunk or a continuation.
-/

namespace EffectGraph

/-- **A host whose operations are deaf.** -/
structure Host.Deaf (h : Host) : Prop where
  call (f : Value) (args : List Value) (keywords : Keywords) : Eff.Deaf (h.call f args keywords)
  read (v : Value) (name : String) : Eff.Deaf (h.read v name)
  openIterator (v : Value) : Eff.Deaf (h.openIterator v)
  pull (v : Value) : Eff.Deaf (h.pull v)
  send (generator v : Value) : Eff.Deaf (h.send generator v)
  close (generator : Value) : Eff.Deaf (h.close generator)

theorem Host.deaf_spent : Host.spent.Deaf where
  call _ _ _ := .exhausted
  read _ _ := .exhausted
  openIterator _ := .exhausted
  pull _ := .exhausted
  send _ _ := .exhausted
  close _ := .exhausted

/-! ### The discipline -/

/-- A line is taken off the input. -/
theorem Console.readStandard_of_takeRaw {u : World} {raw rest : List Char}
    (hu : Lines.takeRaw u.ending u.input = (raw, rest)) :
    readStandard u = if raw.isEmpty then Eff.complain .noInput u
      else .ok (.str (String.ofList (Lines.stripTerminator raw))) { u with input := rest } := by
  rw [readStandard, Eff.bind_get]
  simp only [hu]
  split <;> rfl

/-- It is the same line, whatever the messages. -/
theorem Console.deaf_readStandard : Eff.Deaf readStandard := by
  intro w w' hw
  obtain ⟨messages, rfl⟩ := hw
  rcases htake : Lines.takeRaw w.ending w.input with ⟨raw, rest⟩
  have hsame : Lines.takeRaw (w.retold messages).ending (w.retold messages).input = (raw, rest) :=
    htake
  rw [readStandard_of_takeRaw htake, readStandard_of_takeRaw hsame]
  split
  · exact Eff.Deaf.complain _ (.retold w messages)
  · exact .ok rfl ⟨messages, rfl⟩

/-- **To be deaf is a discipline.** -/
def Eff.deafness : Eff.Discipline where
  Obeys := Eff.Deaf
  pure := .pure
  bind := .bind
  attempt := .attempt
  raise := .raise
  exhausted := @Eff.Deaf.exhausted
  get_bind := .get_bind
  modifyGet hblind _ := .modifyGet hblind
  newCell _ := .modifyGet fun _ _ => rfl
  writeCell _ _ := .modify fun _ _ => rfl
  readStandard := Console.deaf_readStandard

namespace Host.Deaf

variable {h : Host} (hh : h.Deaf)
include hh

theorem obeys : h.Obeys Eff.deafness := ⟨hh.call, hh.read, hh.openIterator, hh.pull, hh.send, hh.close⟩

/-- **Whatever is invoked is deaf,** over a host that is. -/
theorem invoke (f : Value) (args : List Value) : Eff.Deaf (h.invoke f args) := hh.obeys.invoke f args

end Host.Deaf

namespace Machine

variable {h : Host}

theorem deaf_applied (hh : h.Deaf) (f v : Value) : Eff.Deaf (applied h f v) :=
  obeys_applied hh.obeys.observes f v

theorem deaf_performed (hh : h.Deaf) (thunk label : Value) :
    Eff.Deaf (performed h thunk label) :=
  obeys_performed hh.obeys.observes thunk label

end Machine
end EffectGraph
