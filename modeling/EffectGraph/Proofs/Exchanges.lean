import EffectGraph.Proofs.Queues

/-!
# Runs that talk to a console

The library's own nodes for reading and writing do one operation each on a scripted console: a line is
read, or there was none; a text is written (`Layout.ownOps?`).  What other functions do to it is a matter
of the host.  `Layout.RunOps` lists the operations that a run has done when it comes to a state, and
`Layout.WholeOps` those of a run that has ended, however it has.  Runs and calls made directly can follow
each other in any way (`Layout.Dealt`).

All these operations lead to where the console is, so it is a queue at every point (`console_queue`).
-/

namespace EffectGraph

open Machine ConsoleOp

namespace Console.Layout

variable (κ : Layout)

/-! ### The operations of an invocation -/

/-- The operations of the library's own reading and writing, also with arguments given in advance.  A read
is told by what it gives. -/
def ownOps? (h : Host) (w : World) : Value → List Value → Option (List ConsoleOp)
  | .method _ (.scripted address) .readScripted, [] =>
    if address = κ.address then
      match readScripted h address w with
      | .ok line _ => some [.read line]
      | .error _ _ => some [.missed]
    else none
  | .method _ (.scripted address) .writeScripted, [text] =>
    if address = κ.address then some [.wrote text] else none
  | .preset i target before [], args =>
    if (w.given? (.preset i target before []) "keywords").isSome then none
    else ownOps? h w target (before ++ args)
  | _, _ => none

/-- **The operations on a console that an invocation does.**  What any function does that is not the
library's own is a matter of the host. -/
def CallOps (h : Host) (f : Value) (args : List Value) (w : World) (ops : List ConsoleOp) : Prop :=
  match κ.ownOps? h w f args with
  | some own => ops = own
  | none => κ.Talked w ops ((h.invoke f args).left w)

variable {κ} {h : Host} {settings : Settings} {t : Transcript} {w : World} {f : Value}
  {args : List Value} {ops ops' own : List ConsoleOp}

/-- **The library's own reading and writing does what it is told to.**  The induction is on the arguments
given in advance. -/
theorem talked_of_ownOps? (hown : κ.ownOps? h w f args = some own) (ht : κ.Holds t w) :
    κ.Talked w own ((h.invoke f args).left w) := by
  fun_induction κ.ownOps? h w f args with
  | case1 i line w' hread =>
    cases hown
    change κ.Talked w _ ((readScripted h κ.address).left w)
    rw [Eff.left_of_ok hread]
    exact .read h hread
  | case2 i signal w' hread =>
    cases hown
    change κ.Talked w _ ((readScripted h κ.address).left w)
    rw [Eff.left_of_error hread]
    exact .missed h hread
  | case4 i text =>
    cases hown
    obtain ⟨hwrite, -⟩ := ht.shows.write (h := h) text
    change κ.Talked w _ ((writeScripted h κ.address text).left w)
    rw [Eff.left_of_ok hwrite]
    exact .wrote h text hwrite
  | case7 i target before args hkeywords ih =>
    have hcall : h.invoke (.preset i target before []) args w = h.invoke target (before ++ args) w :=
      Eff.bind_get.trans (congrFun (if_neg hkeywords) w)
    rw [Eff.left_congr hcall]
    exact ih hown
  | _ => cases hown

/-- **The operations of an invocation lead to the world that it leaves.** -/
theorem CallOps.talked (hops : κ.CallOps h f args w ops) (ht : κ.Holds t w) :
    κ.Talked w ops ((h.invoke f args).left w) := by
  unfold CallOps at hops
  split at hops
  · next own hown =>
    rw [hops]
    exact talked_of_ownOps? hown ht
  · exact hops

/-- **Every invocation does some operations** over a host that only talks to the console. -/
theorem exists_callOps (hh : h.Honours κ.talking) (f : Value) (args : List Value) (ht : κ.Holds t w) :
    ∃ ops, κ.CallOps h f args w ops := by
  unfold CallOps
  cases κ.ownOps? h w f args with
  | some own => exact ⟨own, rfl⟩
  | none => exact hh.invoke f args w t ht

/-! ### The operations of a step -/

variable (κ)

/-- **The operations on a console that the step from a state does.**  A step that cannot be written into
the journal does none. -/
def StepOps (h : Host) (settings : Settings) (a : State × World) (ops : List ConsoleOp) : Prop :=
  match a.1.invoked? with
  | some (f, args) =>
    (settings.Shows a.1 a.2 → κ.CallOps h f args (settings.seen a.1 a.2) ops) ∧
      (¬ settings.Shows a.1 a.2 → ops = [])
  | none => ops = []

variable {κ} {a b start : State × World}

/-- **The operations of a step lead to the world that it leaves.** -/
theorem StepOps.talked (hops : κ.StepOps h settings a ops) (ht : κ.Holds t a.2) :
    κ.Talked a.2 ops ((step h settings a.1).left a.2) := by
  unfold StepOps at hops
  by_cases hshows : settings.Shows a.1 a.2
  · have hstep := akin_step (h := h) hshows
    have hseen := akin_seen settings a.1 a.2
    split at hops
    · next f args hinvoked =>
      rw [hinvoked] at hstep
      have ht' := (Aside.of_akin hseen).holds ht
      exact ((hops.1 hshows).talked ht').of_akin hseen hstep
    · next hnone =>
      rw [hnone] at hstep
      rw [hops]
      exact .aside (.of_akin (hseen.trans hstep))
  · obtain ⟨fault, hstep⟩ := step_of_not_shows (h := h) hshows
    have hnone : ops = [] := by
      split at hops
      · exact hops.2 hshows
      · exact hops
    rw [Eff.left_of_ok hstep, hnone]
    exact .aside (.refl a.2)

theorem exists_stepOps (hh : h.Honours κ.talking) (ht : κ.Holds t a.2) :
    ∃ ops, κ.StepOps h settings a ops := by
  unfold StepOps
  split
  · next f args hinvoked =>
    by_cases hshows : settings.Shows a.1 a.2
    · have ht' := (Aside.of_akin (akin_seen settings a.1 a.2)).holds ht
      obtain ⟨ops, hops⟩ := exists_callOps hh f args ht'
      exact ⟨ops, fun _ => hops, fun hnot => absurd hshows hnot⟩
    · exact ⟨[], fun hyes => absurd hyes hshows, fun _ => rfl⟩
  · exact ⟨[], rfl⟩

/-! ### The operations of a run -/

variable (κ)

/-- **The operations on a console that a run has done** when it comes to a state. -/
inductive RunOps (h : Host) (settings : Settings) (start : State × World) :
    List ConsoleOp → State × World → Prop where
  | start : RunOps h settings start [] start
  | next {ops ops' : List ConsoleOp} {a b : State × World} (ha : RunOps h settings start ops a)
      (hab : Next h settings a b) (hops : κ.StepOps h settings a ops') :
      RunOps h settings start (ops ++ ops') b

/-- **The operations on a console of a run that has ended,** the last step included, in a world that
differs in nothing but the journal from that in which the machine has halted. -/
def WholeOps (h : Host) (settings : Settings) (start : State × World) (ops : List ConsoleOp)
    (u : World) : Prop :=
  ∃ before last after e s w', κ.RunOps h settings start before last ∧
    κ.StepOps h settings last after ∧ step h settings last.1 last.2 = .ok (.halted e s) w' ∧
    ops = before ++ after ∧ w'.Akin u

variable {κ} {u : World}

/-- **The operations of a run lead from the world in which it starts to where it has come.** -/
theorem RunOps.talked (hb : κ.RunOps h settings start ops b) (ht : κ.Holds t start.2) :
    κ.Talked start.2 ops b.2 := by
  induction hb with
  | start => exact .aside (.refl _)
  | next _ hab hops ih =>
    obtain ⟨t', -, ht'⟩ := ih.goes ht
    have hstep := hops.talked ht'
    rw [Eff.left_of_ok hab] at hstep
    exact ih.trans hstep

theorem WholeOps.talked (hu : κ.WholeOps h settings start ops u) (ht : κ.Holds t start.2) :
    κ.Talked start.2 ops u := by
  obtain ⟨before, last, after, e, s, w', hbefore, hafter, hhalts, rfl, hakin⟩ := hu
  have hlast := hbefore.talked ht
  obtain ⟨t', -, ht'⟩ := hlast.goes ht
  have hstep := hafter.talked ht'
  rw [Eff.left_of_ok hhalts] at hstep
  exact (hlast.trans hstep).of_akin (.refl _) hakin

section reached

variable (hh : h.Honours κ.talking) (ht : κ.Holds t start.2)
include hh ht

/-- A run has done some operations wherever it comes to. -/
theorem exists_runOps (hb : Reaches h settings start b) : ∃ ops, κ.RunOps h settings start ops b := by
  induction hb with
  | refl => exact ⟨[], .start⟩
  | @tail a b ha hab ih =>
    obtain ⟨ops, hops⟩ := ih
    obtain ⟨t', -, ht'⟩ := (hops.talked ht).goes ht
    obtain ⟨ops', hops'⟩ := exists_stepOps hh ht'
    exact ⟨ops ++ ops', hops.next hab hops'⟩

/-- **A run that has ended has done some operations,** however it has ended. -/
theorem exists_wholeOps {fuel : Nat} {e : Ending} {s : State} {w' : World}
    (hrun : drive h settings fuel start.1 start.2 = .ok (e, s) w') (hu : w'.Akin u) :
    ∃ ops, κ.WholeOps h settings start ops u := by
  obtain ⟨last, hlast, hhalts⟩ := exists_reaches_of_drive hrun
  obtain ⟨before, hbefore⟩ := exists_runOps hh ht hlast
  obtain ⟨t', -, ht'⟩ := (hbefore.talked ht).goes ht
  obtain ⟨after, hafter⟩ : ∃ after, κ.StepOps h settings last after :=
    exists_stepOps hh ht'
  exact ⟨before ++ after, before, last, after, e, s, w', hbefore, hafter, hhalts, rfl, hu⟩

/-- **A machine that is driven on talks to the console,** even if it does not come to a halt. -/
theorem exists_talked_drive (fuel : Nat) :
    ∃ ops, κ.Talked start.2 ops ((drive h settings fuel start.1).left start.2) := by
  induction fuel generalizing start t with
  | zero => exact ⟨[], .aside (.refl _)⟩
  | succ fuel ih =>
    obtain ⟨s, w⟩ := start
    obtain ⟨ops, hops⟩ : ∃ ops, κ.StepOps h settings (s, w) ops := exists_stepOps hh ht
    have hstep := hops.talked ht
    cases hs : step h settings s w with
    | error signal w₁ =>
      have hleft : (drive h settings (fuel + 1) s).left w = w₁ := Eff.left_of_error (Eff.bind_of_error hs)
      rw [Eff.left_of_error hs] at hstep
      rw [hleft]
      exact ⟨ops, hstep⟩
    | ok progress w₁ =>
      rw [Eff.left_of_ok hs] at hstep
      cases progress with
      | halted e s' =>
        rw [Eff.left_of_ok (drive_of_halted hs)]
        exact ⟨ops, hstep⟩
      | next s' =>
        obtain ⟨t₁, -, ht₁⟩ := hstep.goes ht
        have hrest : κ.Holds t₁ (s', w₁).2 := ht₁
        obtain ⟨ops', hops'⟩ := ih hrest
        rw [Eff.left_congr (drive_of_next hs)]
        exact ⟨ops ++ ops', hstep.trans hops'⟩

end reached

/-- **A run talks to the console,** so a function that runs a node may be one of the host's. -/
theorem talks_run (hh : h.Honours κ.talking) (fuel : Nat) (node : Value) :
    κ.Talks (Machine.run h fuel settings node) := by
  have hreport : κ.Talks (runReport h fuel settings node) := by
    intro w t ht
    cases hnode : node.isNode with
    | false =>
      rw [Eff.left_of_error (runReport_of_not_isNode hnode)]
      exact ⟨[], .aside (.refl w)⟩
    | true =>
      cases hd : w.ticked.describe? node with
      | error c =>
        rw [Eff.left_of_error (runReport_of_undescribed hnode hd)]
        exact ⟨[], .aside (.of_akin (.ticked_self w))⟩
      | ok description =>
        have ht' : κ.Holds t (State.start node, w.opened description).2 :=
          (Aside.of_akin (.opened_self w description)).holds ht
        obtain ⟨ops, hops⟩ := exists_talked_drive hh ht' fuel
        rw [Eff.left_congr (runReport_of_described hnode hd)]
        exact ⟨ops, hops.of_akin (.opened_self w description)
          (Eff.akin_left_bind (fun r => faint_concluded _ r) _)⟩
  refine .bind hreport fun r => ?_
  cases r.result with
  | ok value => exact .of_left fun _ => rfl
  | error fault => exact .of_left fun _ => rfl

/-! ### Runs and calls in any order -/

/-- **What was done to a console since it was in a world:** calls that were made directly, and runs, each
over a host and with settings of its own, one after the other. -/
inductive Dealt (κ : Layout) (made : World) : List ConsoleOp → World → Prop where
  | start : Dealt κ made [] made
  | direct {ops ops' u u'} (hu : Dealt κ made ops u) (hops : κ.Talked u ops' u') :
      Dealt κ made (ops ++ ops') u'
  | run {ops ops' u u' h fuel settings node description} (hu : Dealt κ made ops u)
      (hd : u.ticked.describe? node = .ok description) (hrun : RunEnds h fuel settings node u u')
      (hops : κ.WholeOps h settings (.start node, u.opened description) ops' u') :
      Dealt κ made (ops ++ ops') u'

variable {made : World}

/-- In the world in which a run begins the console is as before. -/
theorem Holds.opened (ht : κ.Holds t u) (description : String) : κ.Holds t (u.opened description) :=
  (Aside.of_akin (.opened_self u description)).holds ht

/-- **All of this leads to where the console is now.** -/
theorem Dealt.talked (hu : κ.Dealt made ops u) (hmade : κ.Holds t made) : κ.Talked made ops u := by
  induction hu with
  | start => exact .aside (.refl made)
  | direct _ hops ih => exact ih.trans hops
  | run _ hd _ hops ih =>
    obtain ⟨t', -, ht'⟩ := ih.goes hmade
    exact ih.trans ((hops.talked (ht'.opened _)).of_akin (.opened_self _ _) (.refl _))

/-- **A run of one action does to a console what the action does,** and ends. -/
theorem Dealt.exists_action {i : Nat} {thunk label : Value} (hu : κ.Dealt made ops u)
    (hp : settings.Plain) {description : String}
    (hd : u.ticked.describe? (.node i (.delay thunk label)) = .ok description)
    {answer : Except Mishap Value}
    (hrun : performed h thunk label (u.opened description) = .ok answer w)
    (hops : κ.StepOps h settings (.start (.node i (.delay thunk label)), u.opened description) ops') :
    ∃ u', RunEnds h 2 settings (.node i (.delay thunk label)) u u' ∧ w.Akin u' ∧
      κ.Dealt made (ops ++ ops') u' := by
  cases answer with
  | ok v =>
    have hnext := next_action hp hrun i .empty .zero
    have hhalts := step_finished (h := h) hp 0 v Counters.zero.acted w
    have hdrive : drive h settings 2 (.start (.node i (.delay thunk label))) (u.opened description) = _ :=
      (drive_of_next hnext).trans (drive_of_halted hhalts)
    obtain ⟨u', hends, hakin⟩ := exists_runEnds rfl hd hdrive
    have hbefore := RunOps.start.next hnext hops
    have hops' : ops' = ([] ++ ops') ++ [] := (List.append_nil _).symm
    exact ⟨u', hends, hakin, hu.run hd hends ⟨_, _, [], _, _, w, hbefore, rfl, hhalts, hops', hakin⟩⟩
  | error m =>
    obtain ⟨e, s, hmishap⟩ := exists_halted_of_mishap _ _ m w
    have hhalts : step h settings (.start (.node i (.delay thunk label))) (u.opened description) = _ :=
      (congrFun (step_action hp i thunk label .empty .zero) _).trans ((Eff.bind_of_ok hrun).trans hmishap)
    have hdrive : drive h settings 2 (.start (.node i (.delay thunk label))) (u.opened description) = _ :=
      drive_of_halted hhalts
    obtain ⟨u', hends, hakin⟩ := exists_runEnds rfl hd hdrive
    exact ⟨u', hends, hakin, hu.run hd hends ⟨[], _, ops', e, s, w, .start, hops, hhalts, rfl, hakin⟩⟩

/-- **What the library's own nodes for reading and writing find** in a state of a run, given the lines
that are still to give. -/
structure NodesAt (κ : Layout) (h : Host) (settings : Settings) (pending : List Value)
    (b : State × World) : Prop where
  /-- A node that reads gives the first line, and that is all it does to the console. -/
  reads {i j label line rest} : b.1.current = .node i (.delay (.method j κ.console .readScripted) label) →
    pending = line :: rest → settings.Shows b.1 b.2 →
    (∃ u, performed h (.method j κ.console .readScripted) label (settings.seen b.1 b.2) =
      .ok (.ok line) u) ∧ ∀ ops, κ.StepOps h settings b ops ↔ ops = [.read line]
  /-- If there is none, the action fails as there is no input, and changes nothing. -/
  misses {i j label} : b.1.current = .node i (.delay (.method j κ.console .readScripted) label) →
    pending = [] → settings.Shows b.1 b.2 →
    (∃ name, performed h (.method j κ.console .readScripted) label (settings.seen b.1 b.2) =
      .ok (.error (Complaint.noInput.fault, name)) (settings.seen b.1 b.2)) ∧
    ∀ ops, κ.StepOps h settings b ops ↔ ops = [.missed]
  /-- A node that writes a text, given in advance, writes this text. -/
  writes {i j k label text} : b.1.current =
      .node i (.delay (.preset j (.method k κ.console .writeScripted) [text] []) label) →
    b.2.given? (.preset j (.method k κ.console .writeScripted) [text] []) "keywords" = none →
    settings.Shows b.1 b.2 →
    (∃ u, performed h (.preset j (.method k κ.console .writeScripted) [text] []) label
      (settings.seen b.1 b.2) = .ok (.ok .none) u) ∧
    ∀ ops, κ.StepOps h settings b ops ↔ ops = [.wrote text]

/-- The library's own function does the operation that it does. -/
theorem stepOps_iff (hinvoked : b.1.invoked? = some (f, args)) (hshows : settings.Shows b.1 b.2)
    (hown : κ.ownOps? h (settings.seen b.1 b.2) f args = some own) :
    κ.StepOps h settings b ops ↔ ops = own := by
  simp only [StepOps, hinvoked, CallOps, hown, hshows, not_true_eq_false, false_implies, and_true,
    true_implies]

/-- **The library's own nodes find the lines in their order.** -/
theorem Holds.nodesAt (ht : κ.Holds t b.2) : κ.NodesAt h settings t.pending b := by
  have hsame := akin_seen settings b.1 b.2
  have hshown := ((Aside.of_akin hsame).holds ht).shows
  obtain ⟨pending, reads, written⟩ := t
  refine ⟨?_, ?_, ?_⟩
  · rintro i j label line rest hc rfl hshows
    obtain ⟨change, changeRow, hread, -⟩ := hshown.read (h := h)
    have hcall : h.invoke (.method j κ.console .readScripted) [] (settings.seen b.1 b.2) = _ := hread
    have hinvoked : b.1.invoked? = some (.method j κ.console .readScripted, []) := by
      simp only [State.invoked?, hc]
    refine ⟨⟨_, performed_of_ok hcall label⟩, fun ops => stepOps_iff hinvoked hshows ?_⟩
    simp only [Layout.console, ownOps?, hread, if_true]
  · rintro i j label hc rfl hshows
    have hmissed := hshown.missed (h := h)
    have hcall : h.invoke (.method j κ.console .readScripted) [] (settings.seen b.1 b.2) = _ := hmissed
    have hinvoked : b.1.invoked? = some (.method j κ.console .readScripted, []) := by
      simp only [State.invoked?, hc]
    refine ⟨performed_of_raised hcall label, fun ops => stepOps_iff hinvoked hshows ?_⟩
    simp only [Layout.console, ownOps?, hmissed, if_true]
  · intro i j k label text hc hgiven hshows
    have hkeywords : (settings.seen b.1 b.2).given?
        (.preset j (.method k κ.console .writeScripted) [text] []) "keywords" = none := by
      obtain ⟨journal, -, hseen⟩ := hsame
      rw [hseen]
      exact hgiven
    have hcall := (Command.invoke_preset hkeywords).trans (hshown.write (h := h) text).1
    have hinvoked : b.1.invoked? =
        some (.preset j (.method k κ.console .writeScripted) [text] [], []) := by
      simp only [State.invoked?, hc]
    refine ⟨⟨_, performed_of_ok hcall label⟩, fun ops => stepOps_iff hinvoked hshows ?_⟩
    rw [Layout.console] at hkeywords
    simp only [ownOps?, hkeywords, Option.isSome_none, Bool.false_eq_true, if_false, Layout.console,
      List.append_nil, if_true]

end Console.Layout

/-- **A scripted console is a queue under every program.**  Let a console be made of any lines, and then
let lines be fed to it, read off it and texts be written to it, by calls that are made directly and by
runs, in any order.  Then at every point it is a queue (`QueueAt`): the lines that were read, and after
them those still to give, are the lines that it was made with, and after them those that were fed; it has
counted the reads; a read fails only if there is no line, and then changes nothing; and what is written to
it is what was written.  This is so at every state of a run, where the library's own nodes for reading and
writing do just that (`NodesAt`), and when a run has ended, be it with a failure.

A run has such operations wherever it comes to and however it ends, over a host whose functions only talk
to the console. -/
theorem console_queue (lines : List Value) {w : World} (hsole : (Console.Layout.next w).Sole w) :
    let κ := Console.Layout.next w
    ∃ made, World.newConsole lines w = .ok κ.console made ∧
      ∀ ops u, κ.Dealt made ops u →
        (∃ pending, κ.QueueAt lines ops pending u) ∧
        ∀ (h : Host) (settings : Settings) (node : Value) (description : String), node.isNode = true →
          u.ticked.describe? node = .ok description →
          let start : State × World := (.start node, u.opened description)
          (∀ ops' b, κ.RunOps h settings start ops' b → ∃ pending,
            κ.QueueAt lines (ops ++ ops') pending b.2 ∧ κ.NodesAt h settings pending b) ∧
          (h.Honours κ.talking →
            (∀ b, Reaches h settings start b → ∃ ops', κ.RunOps h settings start ops' b) ∧
            ∀ fuel u', RunEnds h fuel settings node u u' →
              ∃ ops', κ.WholeOps h settings start ops' u' ∧ κ.Dealt made (ops ++ ops') u') := by
  intro κ
  obtain ⟨made, hmade, ht⟩ := Console.Layout.holds_next lines hsole
  refine ⟨made, hmade, fun ops u hu => ?_⟩
  have htalked := hu.talked ht
  obtain ⟨t, hgoes, ht'⟩ := htalked.goes ht
  refine ⟨⟨t.pending, ht'.shows.queueAt hgoes⟩, ?_⟩
  intro h settings node description hnode hd start
  have hstart : κ.Holds t start.2 := ht'.opened description
  refine ⟨fun ops' b hb => ?_, fun hh => ⟨fun b hb => ?_, fun fuel u' hends => ?_⟩⟩
  · obtain ⟨t₁, hgoes₁, ht₁⟩ := (hb.talked hstart).goes hstart
    exact ⟨t₁.pending, ht₁.shows.queueAt (hgoes.append hgoes₁), ht₁.nodesAt⟩
  · exact Console.Layout.exists_runOps hh hstart hb
  · obtain ⟨e, s, w', hdrive, hakin⟩ := exists_akin_drive hnode hd hends
    obtain ⟨ops', hops'⟩ := Console.Layout.exists_wholeOps hh hstart hdrive hakin
    exact ⟨ops', hops', hu.run hd hends hops'⟩

/-- A host whose functions feed some lines to a console. -/
def Host.feeding (address : Nat) (lines : List Value) : Host :=
  { Host.spent with call := fun _ _ _ => Console.feed .spent address lines }

theorem Host.honours_feeding (κ : Console.Layout) (address : Nat) (lines : List Value) :
    (Host.feeding address lines).Honours κ.talking :=
  { Host.honours_spent with
    call := fun _ _ _ =>
      Console.Layout.talks_feed (Host.honours_spent (d := κ.talking)).callMethod address lines }

/-- Beside another console, one is made without lines.  A run asks it for a line in vain, another one
feeds it two, and when the first is run again it gives a line. -/
theorem console_queue_fed :
    let w := Script.SessionInput.recorded
    let settings := Script.settingsOf w .none (.bool false)
    let κ := Console.Layout.next w
    let lines := [.str "a", .str "b"]
    let h := Host.feeding κ.address lines
    let reading := Value.ofNode (.delay (.method 0 κ.console .readScripted) (.str "ReadLine"))
    let feeding := Value.ofNode (.delay (.operation .length) (.str "Feed"))
    let ops : List ConsoleOp := [.missed, .fed lines, .read (.str "a")]
    κ.Sole w ∧ h.Honours κ.talking ∧
      ∃ made u₁ u₂ u₃, World.newConsole [] w = .ok κ.console made ∧
        RunEnds h 2 settings reading made u₁ ∧ RunEnds h 2 settings feeding u₁ u₂ ∧
        RunEnds h 2 settings reading u₂ u₃ ∧
        (∃ ops', κ.WholeOps h settings (.start reading, u₂.opened "Delay(ReadLine)") ops' u₃) ∧
        κ.Dealt made ops u₃ ∧ κ.QueueAt [] ops [.str "b"] u₃ := by
  intro w settings κ lines h reading feeding ops
  have hp : settings.Plain := Settings.plain_settingsOf w
  have hsole : κ.Sole w := by
    intro address c haddress hc
    match address with
    | 0 =>
      cases hc
      exact fun hsame => absurd (Value.deque.inj hsame) (by decide)
  have hh : h.Honours κ.talking := Host.honours_feeding κ κ.address lines
  have hshows (b : State × World) : settings.Shows b.1 b.2 := fun htrace => nomatch htrace
  have hreading (u : World) : u.ticked.describe? reading = .ok "Delay(ReadLine)" := rfl
  have hfeeding (u : World) : u.ticked.describe? feeding = .ok "Delay(Feed)" := rfl
  obtain ⟨made, hmade, ht⟩ := Console.Layout.holds_next [] hsole
  obtain ⟨made', hmade', hall⟩ := console_queue [] hsole
  obtain rfl : made = made' := (EStateM.Result.ok.inj (hmade.symm.trans hmade')).2
  -- there is no line, and the world is left as it is
  have ht := ht.opened "Delay(ReadLine)"
  obtain ⟨⟨name, hmiss⟩, hmissed⟩ := (ht.nodesAt (b := (.start reading, _))).misses rfl rfl (hshows _)
  obtain ⟨u₁, hends₁, hakin₁, hu₁⟩ :=
    Console.Layout.Dealt.start.exists_action hp (hreading made) hmiss ((hmissed _).2 rfl)
  -- the host feeds two lines
  have ht := ((Console.Layout.Aside.of_akin hakin₁).holds ht).opened "Delay(Feed)"
  obtain ⟨changeRow, hfeed, hshown⟩ := ht.shows.feed (h := .spent) lines
  have hfeeds : h.invoke (.operation .length) [] (u₁.opened "Delay(Feed)") = _ := hfeed
  have hfed : κ.StepOps h settings (.start feeding, u₁.opened "Delay(Feed)") [.fed lines] := by
    refine ⟨fun _ => ?_, fun hnot => absurd (hshows _) hnot⟩
    change κ.Talked _ _ ((h.invoke (.operation .length) []).left (u₁.opened "Delay(Feed)"))
    rw [Eff.left_of_ok hfeeds]
    exact .fed .spent lines hfeed
  obtain ⟨u₂, hends₂, hakin₂, hu₂⟩ := hu₁.exists_action hp (hfeeding u₁)
    (performed_of_ok hfeeds (.str "Feed")) hfed
  -- now there is a line
  have ht := ((Console.Layout.Aside.of_akin hakin₂).holds ⟨hshown, ht.sole⟩).opened "Delay(ReadLine)"
  obtain ⟨⟨_, hread⟩, hreads⟩ := (ht.nodesAt (b := (.start reading, _))).reads rfl rfl (hshows _)
  obtain ⟨u₃, hends₃, -, hu₃⟩ := hu₂.exists_action hp (hreading u₂) hread ((hreads _).2 rfl)
  obtain ⟨-, hend⟩ := ((hall _ u₂ hu₂).2 h settings reading _ rfl (hreading u₂)).2 hh
  obtain ⟨ops', hops', -⟩ := hend 2 u₃ hends₃
  obtain ⟨⟨pending, hq⟩, -⟩ := hall _ u₃ hu₃
  obtain rfl : pending = [.str "b"] := (List.cons.inj hq.order).2
  exact ⟨hsole, hh, made, u₁, u₂, u₃, hmade, hends₁, hends₂, hends₃, ⟨ops', hops'⟩, hu₃, hq⟩

end EffectGraph
