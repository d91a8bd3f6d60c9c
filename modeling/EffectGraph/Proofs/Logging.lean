import Mathlib.Algebra.GroupWithZero.Nat
import Mathlib.Data.List.Chain
import EffectGraph.Proofs.Cells
import EffectGraph.Proofs.Conduct
import EffectGraph.Proofs.Ledger

/-!
# The log of a traced run

With tracing on, a run tells the journal of each step before it takes it, and of each failure that a
boundary catches.  What it tells of a step can be read off the state before the step (`Machine.entryAt?`),
and so can the log of a run off its history (`Machine.entries`).  If the host leaves the journal alone
(`Host.Silent`), the journal is this log and nothing else: one step adds its entry (`Next.told`), and
so, after any number of steps, the entries of all of them are there, in their order (`History.logged`).
The step that ends a run adds an entry as well, but not if its node cannot be described, for which it
is counted nevertheless (`log_faithful`).
-/

namespace EffectGraph

open Machine

namespace Journal

/-- The journal with some more messages. -/
def told (j : Journal) (texts : List String) : Journal :=
  { j with messages := j.messages ++ texts.toArray }

variable {j : Journal}

@[simp]
theorem told_nil : j.told [] = j := by
  rw [told, Array.append_empty]

theorem told_told (texts texts' : List String) :
    (j.told texts).told texts' = j.told (texts ++ texts') := by
  simp only [told, Array.append_assoc, List.append_toArray]

theorem noted_of_recording (hj : j.recording = true) (text : String) : j.noted text = j.told [text] := by
  rw [noted, if_pos hj]
  rfl

end Journal

/-! ### Silence -/

namespace Eff

variable {α β : Type} {x : Eff α}

/-- **A computation that leaves the journal alone,** however it ends. -/
def Silent (x : Eff α) : Prop := ∀ w : World, (x.left w).journal = w.journal

namespace Silent

theorem of_ok (hx : Silent x) {a : α} {w w' : World} (hw : x w = .ok a w') :
    w'.journal = w.journal := by
  rw [← hx w, left_of_ok hw]

theorem bind {f : α → Eff β} (hx : Silent x) (hf : ∀ a, Silent (f a)) : Silent (x >>= f) := by
  intro w
  cases hw : x w with
  | ok a w₁ =>
    rw [left_bind_of_ok hw, hf a w₁, hx.of_ok hw]
  | error signal w₁ =>
    rw [left_of_error (bind_of_error hw), ← left_of_error hw, hx w]

theorem attempt (hx : Silent x) : Silent (Eff.attempt x) := by
  intro w
  rw [Operates.left_attempt, hx w]

/-- Reading a line takes it off the input and tells the journal nothing. -/
theorem readStandard : Silent Console.readStandard := by
  intro w
  unfold left Console.readStandard
  rw [bind_get]
  rcases Lines.takeRaw w.ending w.input with ⟨raw, rest⟩
  simp only
  cases raw.isEmpty <;> rfl

end Silent

/-- **To leave the journal alone is a custom.** -/
def silence : Custom where
  Obeys := Silent
  pure _ := fun _ => rfl
  bind := .bind
  attempt := .attempt
  raise _ := fun _ => rfl
  exhausted := fun _ => rfl
  get_bind _ hf := fun w => hf w w
  modifyGet hblind _ := fun w => congrArg (fun r : _ × World => r.2.journal) (hblind w w.journal)
  newCell _ := fun _ => rfl
  writeCell _ _ := fun _ => rfl
  readStandard := .readStandard

end Eff

/-- **A host whose functions neither write into the journal nor start runs,** which would. -/
def Host.Silent (h : Host) : Prop := h.Observes Eff.silence

namespace Machine

/-! ### Entries -/

/-- A failure that a boundary catches, as the journal is told of it. -/
structure Rescue where
  kind : String
  place : String
  /-- How many continuations are dropped for it. -/
  dropped : Nat

/-- The message about a failure that is caught. -/
def Rescue.line (r : Rescue) : String :=
  "Recovering from " ++ r.kind ++ " in " ++ r.place ++ " (" ++ r.dropped.repr ++
    " continuation(s) discarded)"

/-- **What the journal is told of one step.** -/
structure Entry where
  number : Nat
  depth : Nat
  description : String
  /-- The failure of the step, if a boundary catches it. -/
  rescue? : Option Rescue

namespace Entry

/-- The messages about a step; that about its failure comes directly after that about the step. -/
def lines (e : Entry) : List String :=
  ("step " ++ e.number.repr ++ " depth=" ++ e.depth.repr ++ " " ++ e.description) ::
    e.rescue?.toList.map Rescue.line

/-- How many continuations are said to be dropped. -/
def dropped (e : Entry) : Nat := (e.rescue?.map Rescue.dropped).getD 0

end Entry

variable {h : Host} {settings : Settings} {start a b : State × World} {past : List (State × World)}
  {s s' : State} {w w' : World} {l : Lapse} {e : Entry} {dropped : Nat} {g : Value} {rest : Stack}

/-- What the journal is told of a lapse: a boundary catches it if it is a failure, there is a boundary,
and there is a text for what it is blamed on. -/
def Lapse.rescue? (l : Lapse) : Option Rescue :=
  match l.mishap.1.kind.isFailure, l.state.stack.unwind, l.world.str? l.mishap.2 with
  | true, ⟨dropped, some _⟩, .ok place => some ⟨l.mishap.1.kind.name, place, dropped⟩
  | _, _, _ => none

/-- What the journal is told of what goes wrong in the step of a state. -/
def rescueAt? (h : Host) (settings : Settings) (a : State × World) : Option Rescue :=
  (lapseAt? h settings a).bind Lapse.rescue?

/-- **What the journal is told of the step of a state,** if its node can be described: the number of the
step, how many frames are pending, the node, and the failure that a boundary catches. -/
def entryAt? (h : Host) (settings : Settings) (a : State × World) : Option Entry :=
  match a.2.describe? a.1.current with
  | .ok text => some ⟨a.1.counters.totalSteps + 1, a.1.stack.depth, text, rescueAt? h settings a⟩
  | .error _ => none

/-- **The log of some states,** of which the newest is given first and told last. -/
def entries (h : Host) (settings : Settings) (states : List (State × World)) : List Entry :=
  states.reverse.filterMap (entryAt? h settings)

theorem entryAt?_of_described {text : String} (hd : a.2.describe? a.1.current = .ok text) :
    entryAt? h settings a =
      some ⟨a.1.counters.totalSteps + 1, a.1.stack.depth, text, rescueAt? h settings a⟩ := by
  simp only [entryAt?, hd]

theorem entryAt?_of_undescribed {c : Complaint} (hd : a.2.describe? a.1.current = .error c) :
    entryAt? h settings a = none := by
  simp only [entryAt?, hd]

theorem entries_cons :
    entries h settings (a :: past) = entries h settings past ++ (entryAt? h settings a).toList := by
  rw [entries, List.reverse_cons, List.filterMap_append]
  cases he : entryAt? h settings a with
  | none => rw [List.filterMap_cons_none he]; rfl
  | some e => rw [List.filterMap_cons_some he]; rfl

theorem exists_rescue_of_some {r : Rescue} (hr : l.rescue? = some r) :
    l.mishap.1.kind.isFailure = true ∧
      ∃ landing, l.state.stack.unwind = ⟨r.dropped, some landing⟩ ∧
        l.world.str? l.mishap.2 = .ok r.place := by
  unfold Lapse.rescue? at hr
  split at hr
  · next hfault hlands hplace =>
    cases hr
    exact ⟨hfault, _, hlands, hplace⟩
  · cases hr

/-- A lapse that is caught in a recording journal is told. -/
theorem exists_rescue_of_noted (hrec : l.world.journal.recording = true)
    (hfault : l.mishap.1.kind.isFailure = true)
    (hlands : l.state.stack.unwind = ⟨dropped, some (g, rest)⟩)
    (hnote : recoveryNote l.mishap.1 l.mishap.2 dropped l.world = .ok () w') :
    ∃ r, l.rescue? = some r ∧ r.dropped = l.state.stack.exposed ∧
      w'.journal = l.world.journal.told [r.line] := by
  cases hplace : l.world.str? l.mishap.2 with
  | error c =>
    rw [recoveryNote_of_error hplace, if_pos hrec] at hnote
    cases hnote
  | ok place =>
    rw [recoveryNote_apply hplace] at hnote
    obtain ⟨-, rfl⟩ := EStateM.Result.ok.inj hnote
    refine ⟨⟨l.mishap.1.kind.name, place, dropped⟩, ?_, (Stack.count_of_unwind hlands).1,
      Journal.noted_of_recording hrec _⟩
    simp only [Lapse.rescue?, hfault, hlands, hplace]

/-! ### One step -/

/-- **What a step tells the journal after its own message:** its failure, if a boundary catches that,
and the failure that is told is that which is counted. -/
structure Tells (h : Host) (settings : Settings) (a : State × World) (j : Journal) : Prop where
  journal : j = (settings.seen a.1 a.2).journal.told ((rescueAt? h settings a).toList.map Rescue.line)
  lapse : (rescueAt? h settings a).isSome = (lapseAt? h settings a).isSome
  dropped : ((rescueAt? h settings a).map Rescue.dropped).getD 0 = lost h settings a

theorem Tells.of_none (hl : lapseAt? h settings a = none) {j : Journal}
    (hj : j = (settings.seen a.1 a.2).journal) : Tells h settings a j := by
  have hnone : rescueAt? h settings a = none := by rw [rescueAt?, hl, Option.bind_none]
  refine ⟨?_, ?_, ?_⟩
  · rw [hnone, hj]
    exact Journal.told_nil.symm
  · rw [hnone, hl]
    rfl
  · rw [hnone, lost_of_none hl]
    rfl

theorem Tells.of_caught (hl : lapseAt? h settings a = some l)
    (hj : l.world.journal = (settings.seen a.1 a.2).journal)
    (hrec : (settings.seen a.1 a.2).journal.recording = true)
    (hfault : l.mishap.1.kind.isFailure = true)
    (hlands : l.state.stack.unwind = ⟨dropped, some (g, rest)⟩)
    (hnote : recoveryNote l.mishap.1 l.mishap.2 dropped l.world = .ok () w') :
    Tells h settings a w'.journal := by
  rw [← hj] at hrec
  obtain ⟨r, hr, hdropped, hjournal⟩ := exists_rescue_of_noted hrec hfault hlands hnote
  have hsome : rescueAt? h settings a = some r := by rw [rescueAt?, hl, Option.bind_some, hr]
  refine ⟨?_, ?_, ?_⟩
  · rw [hsome, hjournal, hj]
    rfl
  · rw [hsome, hl]
    rfl
  · rw [hsome, lost_of_some hl, ← hdropped]
    rfl

section silent

variable (hh : h.Silent)
include hh

theorem journal_of_applied {f v : Value} {r : Except Mishap Value}
    (hf : applied h f v w = .ok r w') : w'.journal = w.journal :=
  Eff.Silent.of_ok (obeys_applied hh f v) hf

theorem journal_of_performed {thunk label : Value} {r : Except Mishap Value}
    (hrun : performed h thunk label w = .ok r w') : w'.journal = w.journal :=
  Eff.Silent.of_ok (obeys_performed hh thunk label) hrun

/-- **A move tells the journal of nothing but a failure that a boundary catches.** -/
theorem Move.tells (hrec : (settings.seen a.1 a.2).journal.recording = true)
    (hm : Move h a.1.counted (settings.seen a.1 a.2) s' w') : Tells h settings a w'.journal := by
  cases hm with
  | push hc => exact .of_none (lapse?_of_flatMap hc) rfl
  | guard hc => exact .of_none (lapse?_of_recover hc) rfl
  | pass hc hs => exact .of_none (lapse?_of_boundary hs hc) rfl
  | hand hc hs hf =>
    exact .of_none ((lapse?_of_done hc hs).trans (congrArg (lapseOf? _) hf)) (journal_of_applied hh hf)
  | act hc hrun =>
    exact .of_none ((lapse?_of_delay hc).trans (congrArg (lapseOf? _) hrun))
      (journal_of_performed hh hrun)
  | handCaught hc hs hf hfault hlands hnote =>
    exact .of_caught ((lapse?_of_done hc hs).trans (congrArg (lapseOf? _) hf))
      (journal_of_applied hh hf) hrec hfault hlands hnote
  | actCaught hc hrun hfault hlands hnote =>
    exact .of_caught ((lapse?_of_delay hc).trans (congrArg (lapseOf? _) hrun))
      (journal_of_performed hh hrun) hrec hfault hlands hnote

end silent

/-- The message about a step that is written into a journal that records. -/
theorem journal_seen {text : String} (ht : w.isTruthy settings.trace = true)
    (hd : w.describe? s.current = .ok text) (hrec : w.journal.recording = true) :
    (settings.seen s w).journal = w.journal.told ["step " ++ (s.counters.totalSteps + 1).repr ++
      " depth=" ++ s.stack.depth.repr ++ " " ++ text] := by
  rw [← Journal.noted_of_recording hrec]
  simp only [Settings.seen, ht, hd, if_true]
  rfl

section traced

variable (hh : h.Silent) (ht : ∀ w : World, w.isTruthy settings.trace = true)
include hh ht

/-- **A step that goes on tells the journal its entry.** -/
theorem Next.told (hrec : a.2.journal.recording = true) (hab : Next h settings a b) :
    ∃ e, entryAt? h settings a = some e ∧ b.2.journal = a.2.journal.told e.lines ∧
      e.rescue?.isSome = (lapseAt? h settings a).isSome ∧ e.dropped = lost h settings a := by
  cases hd : a.2.describe? a.1.current with
  | error c =>
    rw [Next, step_of_undescribed (ht a.2) hd] at hab
    cases hab
  | ok text =>
    have hseen := journal_seen (ht a.2) hd hrec
    have hrecording : (settings.seen a.1 a.2).journal.recording = true := by rw [hseen]; exact hrec
    obtain ⟨hjournal, hlapse, hdropped⟩ := Move.tells hh hrecording hab.move_seen
    refine ⟨⟨a.1.counters.totalSteps + 1, a.1.stack.depth, text, rescueAt? h settings a⟩,
      entryAt?_of_described hd, ?_, hlapse, hdropped⟩
    rw [hjournal, hseen, Journal.told_told]
    rfl

end traced

/-! ### The last step -/

/-- Counters that agree on the steps and on the failures that were caught. -/
def Counters.InStep (c c' : Counters) : Prop :=
  c'.totalSteps = c.totalSteps ∧ c'.totalRecoveries = c.totalRecoveries

/-- A mishap that ends the run changes nothing in the world. -/
theorem eq_of_mishap_halted {m : Mishap} {e : Ending}
    (hm : mishap s m w = .ok (.halted e s') w') : w' = w ∧ s.counters.InStep s'.counters := by
  cases hfault : m.1.kind.isFailure with
  | false =>
    rw [mishap_of_interrupt hfault] at hm
    cases hm
    exact ⟨rfl, rfl, rfl⟩
  | true =>
    rcases hunwind : s.stack.unwind with ⟨dropped, _ | ⟨g, rest⟩⟩
    · rw [mishap_of_no_landing hfault hunwind] at hm
      cases hm
      exact ⟨rfl, rfl, rfl⟩
    · cases hplace : w.str? m.2 with
      | ok place =>
        rw [mishap_of_noted hfault hunwind (recoveryNote_apply hplace _ _)] at hm
        cases hm
      | error c =>
        have hnote := recoveryNote_of_error hplace m.1 dropped
        split at hnote
        · rw [mishap_of_landing hfault hunwind, Eff.bind_of_ok (Eff.attempt_of_raised hnote)] at hm
          cases hm
          exact ⟨rfl, rfl, rfl⟩
        · rw [mishap_of_noted hfault hunwind hnote] at hm
          cases hm

/-- A state that is not gone on with keeps the number of its step. -/
theorem inStep_of_checkLimit {e : Ending} (hs : checkLimit settings s = .halted e s') :
    s.counters.InStep s'.counters := by
  unfold checkLimit at hs
  split at hs
  · cases hs
  · split at hs
    · split at hs <;> cases hs <;> exact ⟨rfl, rfl⟩
    · cases hs
  · cases hs
    exact ⟨rfl, rfl⟩

/-- What ends the run after an action or a continuation was invoked has told the journal nothing more. -/
theorem journal_of_answered {x : Eff (Except Mishap Value)} {next : Value → State} {s₁ : State}
    {e : Ending} (hs : (do
      match ← x with
      | .ok v => return checkLimit settings (next v)
      | .error m => mishap s₁ m) w = .ok (.halted e s') w')
    (hx : ∀ {r w₁}, x w = .ok r w₁ → w₁.journal = w.journal)
    (hnext : ∀ v, (next v).counters.InStep s.counters) (hs₁ : s₁.counters.InStep s.counters) :
    w'.journal = w.journal ∧ s.counters.InStep s'.counters := by
  obtain ⟨answer, w₁, hanswer, hs⟩ := Eff.exists_of_bind_ok hs
  have hjournal := hx hanswer
  cases answer with
  | ok v =>
    obtain ⟨hhalted, rfl⟩ := EStateM.Result.ok.inj hs
    obtain ⟨hsteps, hrecoveries⟩ := inStep_of_checkLimit hhalted
    exact ⟨hjournal, hsteps.trans (hnext v).1.symm, hrecoveries.trans (hnext v).2.symm⟩
  | error m =>
    obtain ⟨rfl, hsteps, hrecoveries⟩ := eq_of_mishap_halted hs
    exact ⟨hjournal, hsteps.trans hs₁.1.symm, hrecoveries.trans hs₁.2.symm⟩

/-- **A node whose step ends the run** has told the journal nothing more. -/
theorem journal_of_halted (hh : h.Silent) {e : Ending}
    (hs : dispatch h settings s w = .ok (.halted e s') w') :
    w'.journal = w.journal ∧ s.counters.InStep s'.counters := by
  cases hk : s.current.isKnown with
  | false =>
    rw [dispatch_unknown hk] at hs
    cases hs
    exact ⟨rfl, rfl, rfl⟩
  | true =>
    cases hc : s.current with
    | node i n =>
      cases n with
      | done v =>
        simp only [dispatch, hc] at hs
        rcases hpop : s.stack.pop? with _ | ⟨f | g, rest⟩
        · rw [hpop] at hs
          cases hs
          exact ⟨rfl, rfl, rfl⟩
        · rw [hpop] at hs
          simp only [continueWith_eq] at hs
          exact journal_of_answered hs (journal_of_applied hh) (fun _ => ⟨rfl, rfl⟩) ⟨rfl, rfl⟩
        · rw [hpop] at hs
          cases hs
      | delay thunk label =>
        simp only [dispatch, hc, perform_eq] at hs
        exact journal_of_answered hs (journal_of_performed hh) (fun _ => ⟨rfl, rfl⟩) ⟨rfl, rfl⟩
      | flatMap source f =>
        simp only [dispatch, hc] at hs
        obtain ⟨hnext, rfl⟩ := EStateM.Result.ok.inj hs
        have hsteps := inStep_of_checkLimit hnext
        exact ⟨rfl, hsteps⟩
      | recover source g =>
        simp only [dispatch, hc] at hs
        obtain ⟨hnext, rfl⟩ := EStateM.Result.ok.inj hs
        have hsteps := inStep_of_checkLimit hnext
        exact ⟨rfl, hsteps⟩
      | foreign variant =>
        rw [hc] at hk
        cases hk
    | _ =>
      rw [hc] at hk
      cases hk

/-- A failure that a boundary catches, with a text for what it is blamed on, does not end the run. -/
theorem exists_next_of_rescue {r : Rescue} (hl : lapse? h s w = some l) (hr : l.rescue? = some r) :
    ∃ s' w', dispatch h settings s w = .ok (.next s') w' := by
  obtain ⟨hfault, ⟨g, rest⟩, hlands, hplace⟩ := exists_rescue_of_some hr
  have hcaught : mishap l.state l.mishap l.world = .ok (.next _) _ :=
    mishap_of_noted hfault hlands (recoveryNote_apply hplace _ _)
  rcases exists_of_lapse? hl with ⟨i, thunk, label, hc, hrun, hstate⟩ |
    ⟨i, v, f, below, hc, hs, hf, hstate⟩
  · rw [hstate] at hcaught
    simp only [dispatch, hc, perform_eq]
    exact ⟨_, _, (Eff.bind_of_ok hrun).trans hcaught⟩
  · rw [hstate] at hcaught
    simp only [dispatch, hc, hs, Stack.pop?_push, continueWith_eq]
    rw [← hc]
    exact ⟨_, _, (Eff.bind_of_ok hf).trans hcaught⟩

/-- The step that ends a run tells of no failure that is caught. -/
theorem rescueAt?_of_halted {e : Ending}
    (hs : dispatch h settings a.1.counted (settings.seen a.1 a.2) = .ok (.halted e s') w') :
    rescueAt? h settings a = none := by
  rw [rescueAt?, Option.bind_eq_none_iff]
  intro l hl
  cases hr : l.rescue? with
  | none => rfl
  | some r =>
    obtain ⟨s₁, w₁, hnext⟩ := exists_next_of_rescue hl hr
    rw [hnext] at hs
    cases hs

section traced

variable (hh : h.Silent) (ht : ∀ w : World, w.isTruthy settings.trace = true)
include hh ht

/-- **The step that ends a run tells the journal its entry,** if its node can be described; otherwise
the complaint about that is raised, and the step is counted without an entry. -/
theorem told_of_halted (hrec : a.2.journal.recording = true) {e : Ending}
    (hs : step h settings a.1 a.2 = .ok (.halted e s') w') :
    a.1.counted.counters.InStep s'.counters ∧
      w'.journal = a.2.journal.told ((entryAt? h settings a).toList.flatMap Entry.lines) ∧
      ((∃ e, entryAt? h settings a = some e ∧ e.rescue? = none) ∨
        ∃ c, a.2.describe? a.1.current = .error c ∧ e = .interrupted c.fault ∧
          entryAt? h settings a = none) := by
  cases hd : a.2.describe? a.1.current with
  | error c =>
    rw [step_of_undescribed (ht a.2) hd] at hs
    cases hs
    have he : entryAt? h settings a = none := entryAt?_of_undescribed hd
    refine ⟨⟨rfl, rfl⟩, ?_, .inr ⟨c, rfl, rfl, he⟩⟩
    rw [he]
    exact Journal.told_nil.symm
  | ok text =>
    rw [step_eq_dispatch fun _ => ⟨text, hd⟩] at hs
    obtain ⟨hjournal, hsteps⟩ := journal_of_halted hh hs
    have he : entryAt? h settings a = some ⟨_, _, text, rescueAt? h settings a⟩ := entryAt?_of_described hd
    rw [rescueAt?_of_halted hs] at he
    refine ⟨hsteps, ?_, .inl ⟨_, he, rfl⟩⟩
    rw [he, hjournal, journal_seen (ht a.2) hd hrec]
    rfl

end traced

/-! ### Logs -/

theorem described_of_entryAt? (he : entryAt? h settings a = some e) :
    ∃ text, a.2.describe? a.1.current = .ok text := by
  cases hd : a.2.describe? a.1.current with
  | ok text => exact ⟨text, rfl⟩
  | error c =>
    rw [entryAt?_of_undescribed hd] at he
    cases he

/-- **The log of a history is what the journal was told in it,** and tells of all that was counted. -/
structure Logged (h : Host) (settings : Settings) (start : State × World)
    (past : List (State × World)) (b : State × World) : Prop where
  journal : b.2.journal = start.2.journal.told ((entries h settings past).flatMap Entry.lines)
  described : ∀ a ∈ past, ∃ text, a.2.describe? a.1.current = .ok text
  rescues : (entries h settings past).countP (·.rescue?.isSome) = lapses h settings past
  dropped : ((entries h settings past).map Entry.dropped).sum = losses h settings past

theorem Logged.described_cons (hl : Logged h settings start past a) (he : entryAt? h settings a = some e) :
    ∀ b ∈ a :: past, ∃ text, b.2.describe? b.1.current = .ok text :=
  List.forall_mem_cons.mpr ⟨described_of_entryAt? he, hl.described⟩

/-- **A run logs its steps.** -/
theorem History.logged (hh : h.Silent) (ht : ∀ w : World, w.isTruthy settings.trace = true)
    (hrec : start.2.journal.recording = true) (hb : History h settings start past b) :
    Logged h settings start past b := by
  induction hb with
  | start => exact ⟨Journal.told_nil.symm, nofun, rfl, rfl⟩
  | @next past a b _ hab ih =>
    obtain ⟨hjournal, hdescribed, hrescues, hdropped⟩ := ih
    have hrecording : a.2.journal.recording = true := by rw [hjournal]; exact hrec
    obtain ⟨e, he, htold, hlapse, hlost⟩ := Next.told hh ht hrecording hab
    have hlog : entries h settings (a :: past) = entries h settings past ++ [e] := by
      rw [entries_cons, he, Option.toList_some]
    refine ⟨?_, List.forall_mem_cons.mpr ⟨described_of_entryAt? he, hdescribed⟩, ?_, ?_⟩
    · rw [htold, hjournal, Journal.told_told, hlog, List.flatMap_append, List.flatMap_singleton]
    · rw [hlog, List.countP_append, hrescues, List.countP_singleton, hlapse, lapses_cons]
    · rw [hlog, List.map_append, List.sum_append, hdropped, losses_cons, ← hlost]
      rfl

/-- A log is in order: it is numbered without a gap, and goes from the empty stack up by one frame at
most from each step to the next. -/
structure Ordered (log : List Entry) : Prop where
  numbers : log.map Entry.number = List.range' 1 log.length
  first : (log.map Entry.depth).head? = some 0
  climbs : (log.map Entry.depth).IsChain fun d d' => d' ≤ d + 1

/-- What the entries of a log tell can be read off the states. -/
theorem map_entries {β : Type} {f : Entry → β} {g : State × World → β}
    (hf : ∀ a e, entryAt? h settings a = some e → f e = g a) {states : List (State × World)}
    (hd : ∀ a ∈ states, ∃ text, a.2.describe? a.1.current = .ok text) :
    (entries h settings states).map f = (states.map g).reverse := by
  induction states with
  | nil => rfl
  | cons a states ih =>
    obtain ⟨⟨text, ha⟩, hstates⟩ := List.forall_mem_cons.mp hd
    have he : entryAt? h settings a = some ⟨_, _, text, rescueAt? h settings a⟩ := entryAt?_of_described ha
    rw [entries_cons, he, List.map_append, ih hstates, List.map_cons (l := states), List.reverse_cons,
      ← hf a _ he]
    rfl

theorem depths_entries {states : List (State × World)}
    (hd : ∀ a ∈ states, ∃ text, a.2.describe? a.1.current = .ok text) :
    (entries h settings states).map Entry.depth = (states.map (·.1.stack.depth)).reverse := by
  refine map_entries (fun a e he => ?_) hd
  obtain ⟨text, ha⟩ := described_of_entryAt? he
  rw [entryAt?_of_described ha] at he
  cases he
  rfl

theorem length_entries {states : List (State × World)}
    (hd : ∀ a ∈ states, ∃ text, a.2.describe? a.1.current = .ok text) :
    (entries h settings states).length = states.length := by
  rw [← List.length_map Entry.depth, depths_entries hd, List.length_reverse, List.length_map]

theorem numbers_entries {states : List (State × World)}
    (hd : ∀ a ∈ states, ∃ text, a.2.describe? a.1.current = .ok text) :
    (entries h settings states).map Entry.number =
      (states.map (·.1.counters.totalSteps + 1)).reverse := by
  refine map_entries (fun a e he => ?_) hd
  obtain ⟨text, ha⟩ := described_of_entryAt? he
  rw [entryAt?_of_described ha] at he
  cases he
  rfl

section history

variable {node : Value}

theorem History.numbers (hb : History h settings (.start node, w) past b) :
    ((b :: past).map (·.1.counters.totalSteps + 1)).reverse =
      List.range' 1 (b :: past).length := by
  induction hb with
  | start => rfl
  | @next past a b ha hab ih =>
    rw [List.map_cons, List.reverse_cons, ih, (ha.next hab).balanced.counted, List.length_cons (a := b),
      List.range'_1_concat, Nat.add_comm 1]

/-- A run never climbs by more than one frame. -/
theorem History.climbs (hb : History h settings start past b) :
    ((b :: past).map (·.1.stack.depth)).IsChain fun d d' => d ≤ d' + 1 := by
  induction hb with
  | start => exact .singleton _
  | @next past a b _ hab ih =>
    refine List.isChain_cons_cons.mpr ⟨?_, ih⟩
    change b.1.stack.depth ≤ a.1.stack.depth + 1
    rcases hab.move_seen.deepens with ⟨hle, -⟩ | ⟨frame, source, hpush, -⟩
    · exact Nat.le_succ_of_le hle
    · rw [hpush]
      exact Nat.le_refl _

theorem History.getLast?_depths (hb : History h settings (.start node, w) past b) :
    ((b :: past).map (·.1.stack.depth)).getLast? = some 0 := by
  induction hb with
  | start => rfl
  | next _ _ ih => exact ih

/-- **The log of a run is in order.** -/
theorem History.ordered (hb : History h settings (.start node, w) past b)
    (hd : ∀ a ∈ b :: past, ∃ text, a.2.describe? a.1.current = .ok text) :
    Ordered (entries h settings (b :: past)) := by
  have hdepths : (entries h settings (b :: past)).map Entry.depth = _ := depths_entries hd
  have hnumbers : (entries h settings (b :: past)).map Entry.number = _ := numbers_entries hd
  refine ⟨?_, ?_, ?_⟩
  · rw [hnumbers, hb.numbers, length_entries hd]
  · rw [hdepths, List.head?_reverse, hb.getLast?_depths]
  · rw [hdepths, List.isChain_reverse]
    exact hb.climbs

end history

/-! ### The log of a report -/

/-- How many frames the end of a run drops, its last step having been told with a depth. -/
def Outcome.drops (depth : Nat) : Outcome → Nat
  | .finished _ => 0
  | .failed failure => failure.discarded
  | .aborted (.unknownVariant _) => depth
  | .aborted (.overflow _ _ depth) => depth

/-- By how many frames the end of a run has exceeded its limit. -/
def Outcome.excess : Outcome → Nat
  | .aborted (.overflow _ _ _) => 1
  | _ => 0

/-- **A log that agrees with a report.** -/
structure Faithful (log : List Entry) (r : Report) : Prop extends Ordered log where
  steps : log.length = r.counters.totalSteps
  rescues : log.countP (·.rescue?.isSome) = r.counters.totalRecoveries
  /-- What was dropped was dropped for a failure that was caught, or at the end. -/
  dropped : (log.map Entry.dropped).sum +
    r.outcome.drops ((log.map Entry.depth).getLast?.getD 0) = r.counters.discardedContinuations
  /-- Only a frame that exceeds the limit is not told of. -/
  deepest : ∃ d, IsGreatest {d | d ∈ log.map Entry.depth} d ∧
    d + r.outcome.excess = r.counters.maxStackDepth

theorem discarded_of_worded {fault : Fault Value} {label : Value} {step discarded : Nat} {f : Failure}
    (hf : worded w fault label step discarded = .ok f) : f.discarded = discarded := by
  unfold worded at hf
  cases hwords : words w fault label with
  | error c =>
    rw [hwords] at hf
    cases hf
  | ok texts =>
    rw [hwords] at hf
    cases hf
    rfl

/-- **What the end of a run counts** besides its step. -/
structure EndsWith (o : Outcome) (c c' : Counters) (depth : Nat) : Prop where
  rescues : c'.totalRecoveries = c.totalRecoveries
  dropped : c'.discardedContinuations = c.discardedContinuations + o.drops depth
  deepest : c'.maxStackDepth = c.maxStackDepth + o.excess

/-- A lapse counts nothing that is told of but when it is dealt with. -/
theorem endsWith_of_lapse? (hl : lapse? h s w = some l) {f : Failure}
    (hf : f.discarded = l.state.stack.depth) :
    EndsWith (.failed f) s.counters (l.state.uncaught l.state.stack.depth).counters s.stack.depth := by
  rcases exists_of_lapse? hl with ⟨_, _, _, -, -, hstate⟩ | ⟨_, _, _, _, -, -, -, hstate⟩
  · rw [hstate] at hf ⊢
    exact ⟨rfl, congrArg (s.counters.discardedContinuations + ·) hf.symm, rfl⟩
  · rw [hstate] at hf ⊢
    exact ⟨rfl, congrArg (s.counters.discardedContinuations + ·) hf.symm, rfl⟩

/-- How the last step of a run counts, if no frame was above the limit before. -/
theorem Halt.endsWith {o : Outcome} (hhalt : Halt h settings s w o.ending s' w')
    (hdepth : s.stack.depth ≤ s.counters.maxStackDepth)
    (hlimit : ∀ limit, settings.bound = .atMost limit → (s.counters.maxStackDepth : Int) ≤ limit) :
    EndsWith o s.counters s'.counters s.stack.depth := by
  generalize he : o.ending = e at hhalt
  cases hhalt with
  | finished hc hs =>
    cases o <;> cases he
    exact ⟨rfl, rfl, rfl⟩
  | failed hl hfault hframes hworded =>
    cases o <;> cases he
    exact endsWith_of_lapse? hl (discarded_of_worded hworded)
  | unknown hk =>
    cases o <;> cases he
    exact ⟨rfl, rfl, rfl⟩
  | @overflow s₁ w₁ limit text hm hbound hdeep htext =>
    cases o <;> cases he
    have hmax := hlimit limit hbound
    rcases hm.deepens with ⟨hle, -⟩ | ⟨frame, source, hpush, -⟩
    · omega
    · rw [hpush] at hdeep ⊢
      have hone : (s.enter frame source).stack.depth = s.stack.depth + 1 := rfl
      refine ⟨rfl, rfl, ?_⟩
      change max s.counters.maxStackDepth (s.stack.depth + 1) = s.counters.maxStackDepth + 1
      omega
  | interrupted => cases o <;> cases he

section history

variable {node : Value}

/-- Below a limit that is not negative no run counts a depth above it. -/
theorem History.maxStackDepth_le_limit (hb : History h settings (.start node, w) past b) {limit : Int}
    (hbound : settings.bound = .atMost limit) (hlimit : 0 ≤ limit) :
    (b.1.counters.maxStackDepth : Int) ≤ limit := by
  have hnat : (limit.toNat : Int) = limit := Int.toNat_of_nonneg hlimit
  have hs : settings.Limits { settings with bound := .unlimited } limit.toNat :=
    ⟨by rw [hbound, hnat], rfl, rfl⟩
  have hle : b.1.counters.maxStackDepth ≤ limit.toNat :=
    (reaches_iff_history.mpr ⟨past, hb⟩).maxStackDepth_le hs (Nat.zero_le _) (Nat.zero_le _)
  omega

/-- **The log of a run that has ended agrees with its report,** the last step having told of no failure
that a boundary caught. -/
theorem History.faithful (hb : History h settings (.start node, w) past a)
    (hlogged : Logged h settings (.start node, w) past a)
    (he : entryAt? h settings a = some e) (hnone : e.rescue? = none)
    (hlimit : ∀ limit, settings.bound = .atMost limit → 0 ≤ limit) {r : Report}
    (hhalt : Halt h settings a.1.counted (settings.seen a.1 a.2) r.outcome.ending s w')
    (hcounters : s.counters = r.counters) (hsteps : r.counters.totalSteps = a.1.counters.totalSteps + 1) :
    Faithful (entries h settings (a :: past)) r := by
  have hdescribed := hlogged.described_cons he
  have hordered := hb.ordered hdescribed
  have hlog : entries h settings (a :: past) = entries h settings past ++ [e] := by
    rw [entries_cons, he, Option.toList_some]
  have hdepths : (entries h settings (a :: past)).map Entry.depth = _ := depths_entries hdescribed
  have hgreatest := hb.isGreatest_depth
  obtain ⟨hrescues, hdropped, hdeepest⟩ := hhalt.endsWith
    (hgreatest.2 ⟨a, List.mem_cons_self, rfl⟩)
    fun limit hbound => hb.maxStackDepth_le_limit hbound (hlimit limit hbound)
  rw [hcounters] at hrescues hdropped hdeepest
  have hcounted : r.counters.totalSteps = (a :: past).length := by
    rw [hsteps, hb.balanced.counted, List.length_cons]
  refine { hordered with
    steps := ?_
    rescues := ?_
    dropped := ?_
    deepest := ⟨a.1.counters.maxStackDepth, ?_, hdeepest.symm⟩ }
  · rw [length_entries hdescribed, hcounted]
  · rw [hlog, List.countP_append, hlogged.rescues, ← hb.balanced.recoveries, hrescues,
      List.countP_singleton, hnone]
    rfl
  · have hlast : ((entries h settings (a :: past)).map Entry.depth).getLast?.getD 0 =
        a.1.stack.depth := by
      rw [hdepths, List.getLast?_reverse]
      rfl
    have hzero : e.dropped = 0 := by
      rw [Entry.dropped, hnone]
      rfl
    rw [hlast, hdropped, hlog, List.map_append, List.sum_append, hlogged.dropped,
      ← hb.balanced.discarded, List.map_singleton, List.sum_singleton, hzero, Nat.add_zero]
    rfl
  · rw [hdepths]
    simpa only [List.mem_reverse, List.mem_map] using hgreatest

end history

/-! ### The journal of a run -/

end Machine

namespace World

variable {w : World}

theorem describe?_journal (journal : Journal) (v : Value) :
    ({ w with journal } : World).describe? v = w.describe? v := by
  rw [describe?, repr?_journal, describe?]

theorem journal_opened (hrec : w.journal.recording = true) (description : String) :
    (w.opened description).journal = w.journal.ticked.told ["Run started: " ++ description] :=
  Journal.noted_of_recording (j := w.journal.ticked) hrec _

end World

namespace Machine

variable {h : Host} {settings : Settings} {past : List (State × World)} {a : State × World}
  {w w' : World} {node : Value} {description text : String}

/-- What a run of a node of a given description writes into the journal before its last message. -/
def transcript (description : String) (log : List Entry) : List String :=
  ("Run started: " ++ description) :: log.flatMap Entry.lines

theorem messages_closed {texts : List String} (hrec : w.journal.recording = true)
    (hw : w'.journal = w.journal.ticked.told texts) (last : String) :
    (w'.closed last).journal.messages = w.journal.messages ++ (texts ++ [last]).toArray := by
  have hrecording : w'.ticked.journal.recording = true := by
    change w'.journal.recording = true
    rw [hw]
    exact hrec
  have htold : (w'.closed last).journal = w'.journal.ticked.told [last] :=
    Journal.noted_of_recording hrecording last
  rw [htold, hw, ← List.append_toArray, ← Array.append_assoc]
  rfl

theorem messages_brokenOff {texts : List String} (hrec : w.journal.recording = true)
    (hw : w'.journal = w.journal.ticked.told texts) (steps : Nat) :
    (w'.brokenOff steps).journal.messages = w.journal.messages ++
      (texts ++ ["Run interrupted after " ++ steps.repr ++ " steps"]).toArray := by
  have hrecording : w'.journal.recording = true := by rw [hw]; exact hrec
  have htold : (w'.brokenOff steps).journal =
      (w'.journal.told ["Run interrupted after " ++ steps.repr ++ " steps"]).ticked :=
    congrArg Journal.ticked (Journal.noted_of_recording hrecording _)
  rw [htold, hw, ← List.append_toArray, ← Array.append_assoc]
  rfl

section runs

variable (hh : h.Silent) (ht : ∀ w : World, w.isTruthy settings.trace = true)
  (hrec : w.journal.recording = true)
include hh ht hrec

theorem History.logged_opened (hb : History h settings (.start node, w.opened description) past a) :
    Logged h settings (.start node, w.opened description) past a ∧
      a.2.journal = w.journal.ticked.told (transcript description (entries h settings past)) := by
  have hopened := World.journal_opened hrec description
  have hlogged := hb.logged hh ht (by rw [hopened]; exact hrec)
  refine ⟨hlogged, ?_⟩
  rw [hlogged.journal, hopened, Journal.told_told]
  rfl

/-- **What a run has written when its last step is done,** whether that was described or not. -/
theorem History.told_at_end {e : Ending} {s : State}
    (hb : History h settings (.start node, w.opened description) past a)
    (hs : step h settings a.1 a.2 = .ok (.halted e s) w') :
    w'.journal = w.journal.ticked.told (transcript description (entries h settings (a :: past))) := by
  obtain ⟨-, hjournal⟩ := hb.logged_opened hh ht hrec
  obtain ⟨-, htold, -⟩ := told_of_halted hh ht (by rw [hjournal]; exact hrec) hs
  rw [htold, hjournal, Journal.told_told, entries_cons]
  simp only [transcript, List.cons_append, List.flatMap_append]

end runs

/-- **What a run that reports writes** is its log, and the log agrees with the report. -/
theorem exists_log_of_report (hh : h.Silent) (ht : ∀ w : World, w.isTruthy settings.trace = true)
    (hlimit : ∀ limit, settings.bound = .atMost limit → 0 ≤ limit) (hrec : w.journal.recording = true)
    (hd : w.ticked.describe? node = .ok description) {fuel : Nat} {r : Report}
    (hrun : runReport h fuel settings node w = .ok r w') :
    ∃ past last s w₁, History h settings (.start node, w.opened description) past last ∧
      step h settings last.1 last.2 = .ok (.halted r.outcome.ending s) w₁ ∧
      Faithful (entries h settings (last :: past)) r ∧
      w'.journal.messages = w.journal.messages ++
        (transcript description (entries h settings (last :: past)) ++
          [closing r.counters r.outcome]).toArray := by
  obtain ⟨description', past, last, s, w₁, hd', hlast, hstep, hhalt, hcounters, rfl⟩ :=
    exists_history_of_runReport hrun
  obtain rfl : description' = description := by
    rw [hd] at hd'
    exact (Except.ok.inj hd').symm
  obtain ⟨hlogged, hjournal⟩ := hlast.logged_opened hh ht hrec
  obtain ⟨⟨hsteps, -⟩, -, hentry⟩ := told_of_halted hh ht (by rw [hjournal]; exact hrec) hstep
  have hmessages := messages_closed hrec (hlast.told_at_end hh ht hrec hstep)
    (closing r.counters r.outcome)
  rcases hentry with ⟨e, he, hnone⟩ | ⟨c, -, hinterrupted, -⟩
  · rw [hcounters] at hsteps
    exact ⟨past, last, s, w₁, hlast, hstep,
      hlast.faithful hlogged he hnone hlimit hhalt hcounters hsteps, hmessages⟩
  · exact absurd hinterrupted (r.outcome.ending_ne_interrupted _)

/-- **The log of an interrupted run,** in the last step of which there was an entry or a complaint. -/
structure BrokenOff (h : Host) (settings : Settings) (past : List (State × World))
    (last : State × World) (fault : Fault Value) (c : Counters) : Prop extends
    Ordered (entries h settings (last :: past)) where
  rescues : (entries h settings (last :: past)).countP (·.rescue?.isSome) = c.totalRecoveries
  /-- The step that is not told of is that of a node that cannot be described. -/
  steps : ((∃ text, last.2.describe? last.1.current = .ok text) ∧
      c.totalSteps = (entries h settings (last :: past)).length) ∨
    ∃ complaint, last.2.describe? last.1.current = .error complaint ∧ fault = complaint.fault ∧
      c.totalSteps = (entries h settings (last :: past)).length + 1

/-- **A history that is broken off** has a log in order, and counts one step more than it tells if the
last node could not be described. -/
theorem History.brokenOff (hh : h.Silent) (ht : ∀ w : World, w.isTruthy settings.trace = true)
    (hrec : w.journal.recording = true) (hd : w.ticked.describe? node = .ok description)
    (hb : History h settings (.start node, w.opened description) past a) {fault : Fault Value}
    {s : State} (hs : step h settings a.1 a.2 = .ok (.halted (.interrupted fault) s) w') :
    BrokenOff h settings past a fault s.counters := by
  obtain ⟨hlogged, hjournal⟩ := hb.logged_opened hh ht hrec
  obtain ⟨⟨hsteps, hrecoveries⟩, -, hentry⟩ := told_of_halted hh ht (by rw [hjournal]; exact hrec) hs
  have hrescues : s.counters.totalRecoveries =
      (entries h settings past).countP (·.rescue?.isSome) := by
    rw [hlogged.rescues, ← hb.balanced.recoveries, hrecoveries]
    rfl
  have hcounted : s.counters.totalSteps = past.length + 1 := by
    rw [hsteps, ← hb.balanced.counted]
    rfl
  rcases hentry with ⟨e, he, hnone⟩ | ⟨c, hc, hfault, he⟩
  · have hdescribed := hlogged.described_cons he
    refine { hb.ordered hdescribed with
      rescues := ?_
      steps := .inl ⟨described_of_entryAt? he, ?_⟩ }
    · rw [hrescues, entries_cons, he, Option.toList_some, List.countP_append, List.countP_singleton,
        hnone]
      rfl
    · rw [hcounted, length_entries hdescribed, List.length_cons]
  · have hlog : entries h settings (a :: past) = entries h settings past := by
      rw [entries_cons, he, Option.toList_none, List.append_nil]
    have hordered : Ordered (entries h settings past) := by
      cases hb with
      | start =>
        -- the node that the run starts with has been described before
        have hopened : (w.opened description).describe? node = w.ticked.describe? node :=
          World.describe?_journal _ node
        cases (hopened.trans hd).symm.trans hc
      | next hb _ => exact hb.ordered hlogged.described
    refine { hlog ▸ hordered with
      rescues := by rw [hlog, hrescues]
      steps := .inr ⟨c, hc, Ending.interrupted.inj hfault, ?_⟩ }
    rw [hlog, hcounted, length_entries hlogged.described]

/-- **What an interrupted run writes.** -/
theorem exists_log_of_raised (hh : h.Silent) (ht : ∀ w : World, w.isTruthy settings.trace = true)
    (hrec : w.journal.recording = true) (hnode : node.isNode = true)
    (hd : w.ticked.describe? node = .ok description) {fuel : Nat} {fault : Fault Value}
    (hrun : runReport h fuel settings node w = .error (.raised fault) w') :
    ∃ past last s w₁, History h settings (.start node, w.opened description) past last ∧
      step h settings last.1 last.2 = .ok (.halted (.interrupted fault) s) w₁ ∧
      BrokenOff h settings past last fault s.counters ∧
      w'.journal.messages = w.journal.messages ++
        (transcript description (entries h settings (last :: past)) ++
          ["Run interrupted after " ++ s.counters.totalSteps.repr ++ " steps"]).toArray := by
  obtain ⟨s, w₁, hdrive, rfl⟩ := exists_drive_of_raised hnode hd hrun
  obtain ⟨past, last, hlast, hstep, -⟩ :=
    exists_history_of_drive (a := (.start node, w.opened description)) hdrive
  exact ⟨past, last, s, w₁, hlast, hstep, hlast.brokenOff hh ht hrec hd hstep,
    messages_brokenOff hrec (hlast.told_at_end hh ht hrec hstep) _⟩

end Machine

/-- **The journal of a traced run is a faithful log of it,** whatever the host, as long as its functions
neither write into the journal nor start runs.  A node that cannot be described is not run, and nothing
is written.  Otherwise the journal has, after any number of steps, the message that the run has started
and the entries of these steps, in their order.  A run that reports has told of all its steps, and its
log agrees with its report; its last message is that of its outcome.  A run that is interrupted has told
of all its steps but one at most: the last, if its node cannot be described, is counted in the last
message and has no entry, and what is raised is the complaint about it. -/
theorem log_faithful {h : Host} (hh : h.Silent) {settings : Settings}
    (ht : ∀ w : World, w.isTruthy settings.trace = true)
    (hlimit : ∀ limit, settings.bound = .atMost limit → 0 ≤ limit) {node : Value}
    (hnode : node.isNode = true) {w : World} (hrec : w.journal.recording = true) :
    (∀ c, w.ticked.describe? node = .error c → ∀ fuel,
      runReport h fuel settings node w = .error (.raised c.fault) w.ticked) ∧
    ∀ description, w.ticked.describe? node = .ok description →
      let start : State × World := (.start node, w.opened description)
      let written (log : List Entry) (last : List String) : Array String :=
        w.journal.messages ++ (transcript description log ++ last).toArray
      (∀ past b, History h settings start past b →
        b.2.journal.messages = written (entries h settings past) [] ∧
          (past ≠ [] → Ordered (entries h settings past))) ∧
      (∀ fuel r w', runReport h fuel settings node w = .ok r w' →
        ∃ past last s w₁, History h settings start past last ∧
          step h settings last.1 last.2 = .ok (.halted r.outcome.ending s) w₁ ∧
          Faithful (entries h settings (last :: past)) r ∧
          w'.journal.messages =
            written (entries h settings (last :: past)) [closing r.counters r.outcome]) ∧
      ∀ fuel fault w', runReport h fuel settings node w = .error (.raised fault) w' →
        ∃ past last s w₁, History h settings start past last ∧
          step h settings last.1 last.2 = .ok (.halted (.interrupted fault) s) w₁ ∧
          BrokenOff h settings past last fault s.counters ∧
          w'.journal.messages = written (entries h settings (last :: past))
            ["Run interrupted after " ++ s.counters.totalSteps.repr ++ " steps"] := by
  refine ⟨fun c hc fuel => runReport_of_undescribed hnode hc, fun description hd =>
    ⟨fun past b hb => ?_, fun fuel r w' hrun => exists_log_of_report hh ht hlimit hrec hd hrun,
      fun fuel fault w' hrun => exists_log_of_raised hh ht hrec hnode hd hrun⟩⟩
  obtain ⟨hlogged, hjournal⟩ := hb.logged_opened hh ht hrec
  refine ⟨?_, fun hpast => ?_⟩
  · change _ = w.journal.messages ++ (_ ++ []).toArray
    rw [hjournal, List.append_nil]
    rfl
  · cases hb with
    | start => exact absurd rfl hpast
    | next hb _ => exact hb.ordered hlogged.described

/-- A finished node and a continuation that wraps its value are told of in three steps, below a limit. -/
theorem log_faithful_sequenced :
    let w := Script.SessionInput.recorded
    let settings := Script.settingsOf w (.int 5) (.bool true)
    let node := Value.sequenced .unit .wrapOk
    Host.spent.Silent ∧ (∀ w : World, w.isTruthy settings.trace = true) ∧
      settings.bound = .atMost 5 ∧ node.isNode = true ∧ w.journal.recording = true ∧
      ∃ past last r w', runReport .spent 3 settings node w = .ok r w' ∧
        r.counters.totalSteps = 3 ∧ Faithful (entries .spent settings (last :: past)) r ∧
        w'.journal.messages = w.journal.messages ++
          (transcript "FlatMap(Done, EffectNode.attempt.<locals>.<lambda>)"
            (entries .spent settings (last :: past)) ++ [closing r.counters r.outcome]).toArray := by
  intro w settings node
  have hh : Host.spent.Silent := Host.observes_spent
  have hbound : settings.bound = .atMost 5 := rfl
  have hlimit : ∀ limit, settings.bound = .atMost limit → 0 ≤ limit := by
    intro limit hlimit
    rw [hbound] at hlimit
    cases hlimit
    decide
  have hrun : ∃ r w', runReport .spent 3 settings node w = .ok r w' ∧ r.counters.totalSteps = 3 :=
    ⟨_, _, rfl, rfl⟩
  obtain ⟨r, w', hrun, hsteps⟩ := hrun
  obtain ⟨past, last, _, _, -, -, hfaithful, hwritten⟩ :=
    ((log_faithful hh (fun _ => rfl) hlimit rfl rfl).2 _ rfl).2.1 3 r w' hrun
  exact ⟨hh, fun _ => rfl, hbound, rfl, rfl, past, last, r, w', hrun, hsteps, hfaithful, hwritten⟩

end EffectGraph
