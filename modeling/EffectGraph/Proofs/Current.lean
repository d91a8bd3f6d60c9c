import EffectGraph.Proofs.Agreement
import EffectGraph.Proofs.Callbacks
import EffectGraph.Proofs.Moves

/-!
# The current value is a node

The machine looks at the node that a continuation gives and at no other.  In a run of a program that
is built from the library every state has a node as its current value, with one exception: a sequence
whose continuation asks (`Callback.asks`) turns to whatever a script's function gave, and if that is
no node the machine gives up in the next step, whatever boundaries there are
(`isNode_current_unless_asked`).
-/

namespace EffectGraph

/-- A message in the journal is none of the values. -/
theorem World.WellBuilt.noted {w : World} (hw : w.WellBuilt) (text : String) :
    (w.noted text).WellBuilt := { hw with }

/-- A run begins in a well built world if it is started in one. -/
theorem World.WellBuilt.opened {w : World} (hw : w.WellBuilt) (description : String) :
    (w.opened description).WellBuilt := { hw with }

namespace Machine

variable {h : Host} {settings : Settings}

/-! ### What the machine itself does keeps values well built -/

theorem keeps_recoveryNote (fault : Fault Value) (label : Value) (dropped : Nat) :
    Eff.Keeps (fun _ => True) (recoveryNote fault label dropped) := by
  refine .bind .get fun w hw => .ite ?_ (.pure trivial)
  exact .bind (.ofExcept fun _ _ => trivial) fun text _ => .set { hw with }

/-- What a continuation gives to the machine is a node. -/
theorem keeps_applied (hh : h.Keeps) {f v : Value} (hf : f.WellBuilt) (hv : v.WellBuilt) :
    Eff.Keeps (fun r => match r with
      | .ok node => node.isNode = true ∧ node.WellBuilt
      | .error mis => mis.1.WellBuilt) (applied h f v) := by
  refine .bind (.attempt (hh.invoke hf (List.forall_mem_singleton.mpr hv))) fun r hr => ?_
  cases r with
  | error fault => exact .bind .get fun _ _ => .pure hr
  | ok next =>
    cases hn : next.isNode with
    | true =>
      simp only [hn]
      exact .pure ⟨hn, hr⟩
    | false =>
      simp only [hn]
      exact .bind .get fun _ _ => .pure (Complaint.wellBuilt_fault _)

theorem keeps_performed (hh : h.Keeps) {thunk : Value} (ht : thunk.WellBuilt) (label : Value) :
    Eff.Keeps (fun r => match r with
      | .ok v => v.WellBuilt
      | .error mis => mis.1.WellBuilt) (performed h thunk label) := by
  refine .bind (.attempt (hh.invoke ht (List.forall_mem_nil _))) fun r hr => ?_
  cases r with
  | error fault => exact .bind .get fun _ _ => .pure hr
  | ok v => exact .pure hr

/-- A state whose current value and frames are well built. -/
structure State.WellBuilt (s : State) : Prop where
  current : s.current.WellBuilt
  frames : ∀ f ∈ s.stack.frames, ∀ p ∈ f.parts, p.WellBuilt

/-- **The machine is to turn to what a script's function gave,** which is no node: `v` stands as the
source of a sequence that goes on with a callback which asks for it. -/
def State.Asked (s : State) (v : Value) : Prop :=
  ∃ i f, s.current = .node i (.flatMap v f) ∧ f.asks = true ∧ v.isNode = false

namespace State.WellBuilt

variable {s s' : State} {rest : Stack} {k : Frame Value} {g v : Value} {w w' : World}

/-- A boundary that catches a well built fault leaves a well built state. -/
theorem recovered (hs : s.WellBuilt) {fault : Fault Value} (hfault : fault.WellBuilt) {dropped : Nat}
    (hlands : s.stack.unwind = ⟨dropped, some (g, rest)⟩) :
    (s.recovered fault dropped g rest).WellBuilt := by
  obtain ⟨fs, hframes, -⟩ := Stack.exists_of_unwind hlands
  have hbelow := hs.frames
  rw [hframes] at hbelow
  obtain ⟨hg, hrest⟩ := List.forall_mem_cons.mp (List.forall_mem_append.mp hbelow).2
  have hdone : (Value.done (.fault fault)).WellBuilt :=
    (Value.wellBuilt_done 0).mpr ((Value.wellBuilt_fault fault).mpr hfault)
  exact ⟨(Value.wellBuilt_flatMap 0).mpr ⟨.inl rfl, hdone, hg g List.mem_cons_self⟩, hrest⟩

/-- A state with fewer frames is well built. -/
theorem popped (hs : s.WellBuilt) (hstack : s.stack = rest.push k) (hv : v.WellBuilt) (c : Counters) :
    (⟨v, rest, c⟩ : State).WellBuilt := by
  refine ⟨hv, fun f hf => hs.frames f ?_⟩
  rw [hstack, Stack.frames_push]
  exact List.mem_cons_of_mem _ hf

/-- A state whose stack has one more frame is well built if the frame is. -/
theorem entered (hs : s.WellBuilt) (hv : v.WellBuilt) (hk : ∀ p ∈ k.parts, p.WellBuilt) :
    (s.enter k v).WellBuilt :=
  ⟨hv, List.forall_mem_cons.mpr ⟨hk, hs.frames⟩⟩

end State.WellBuilt

/-- The frame on top of a well built stack is well built. -/
theorem State.WellBuilt.top {s : State} {rest : Stack} {k : Frame Value} (hs : s.WellBuilt)
    (hstack : s.stack = rest.push k) : ∀ p ∈ k.parts, p.WellBuilt := by
  refine hs.frames k ?_
  rw [hstack]
  exact List.mem_cons_self

/-- **A move keeps all values well built,** and turns to a node unless a callback asked for what it
turns to. -/
theorem Move.wellBuilt (hh : h.Keeps) {s s' : State} {w w' : World} (hm : Move h s w s' w')
    (hs : s.WellBuilt) (hw : w.WellBuilt) :
    s'.WellBuilt ∧ w'.WellBuilt ∧ (s'.current.isNode = true ∨ s.Asked s'.current) := by
  have hcurrent := hs.current
  cases hm with
  | @push i source f hc =>
    rw [hc, Value.wellBuilt_flatMap] at hcurrent
    obtain ⟨hsource, hwell, hf⟩ := hcurrent
    refine ⟨hs.entered hwell (List.forall_mem_singleton.mpr hf), hw, ?_⟩
    cases hn : source.isNode with
    | true => exact .inl hn
    | false =>
      rw [hn] at hsource
      exact .inr ⟨i, f, hc, hsource.resolve_left Bool.false_ne_true, hn⟩
  | guard hc =>
    rw [hc, Value.wellBuilt_recover] at hcurrent
    obtain ⟨hsource, hwell, hg⟩ := hcurrent
    exact ⟨hs.entered hwell (List.forall_mem_singleton.mpr hg), hw, .inl hsource⟩
  | pass hc hstack =>
    refine ⟨hs.popped hstack hs.current _, hw, .inl ?_⟩
    rw [hc]
    rfl
  | hand hc hstack hf =>
    rw [hc, Value.wellBuilt_done] at hcurrent
    obtain ⟨⟨hn, hwell⟩, hw'⟩ :=
      (keeps_applied hh (hs.top hstack _ List.mem_cons_self) hcurrent).of_ok hw hf
    exact ⟨hs.popped hstack hwell _, hw', .inl hn⟩
  | act hc hrun =>
    rw [hc, Value.wellBuilt_delay] at hcurrent
    obtain ⟨hv, hw'⟩ := (keeps_performed hh hcurrent.1 _).of_ok hw hrun
    exact ⟨⟨(Value.wellBuilt_done 0).mpr hv, hs.frames⟩, hw', .inl rfl⟩
  | handCaught hc hstack hf _ hlands hnote =>
    rw [hc, Value.wellBuilt_done] at hcurrent
    obtain ⟨hfault, hw'⟩ :=
      (keeps_applied hh (hs.top hstack _ List.mem_cons_self) hcurrent).of_ok hw hf
    exact ⟨(hs.popped hstack hs.current _).recovered hfault hlands,
      ((keeps_recoveryNote _ _ _).of_ok hw' hnote).2, .inl rfl⟩
  | actCaught hc hrun _ hlands hnote =>
    rw [hc, Value.wellBuilt_delay] at hcurrent
    obtain ⟨hfault, hw'⟩ := (keeps_performed hh hcurrent.1 _).of_ok hw hrun
    exact ⟨hs.recovered hfault hlands, ((keeps_recoveryNote _ _ _).of_ok hw' hnote).2, .inl rfl⟩

/-- **A step keeps all values well built,** and turns to a node unless a callback asked for what it
turns to. -/
theorem Next.wellBuilt (hh : h.Keeps) {a b : State × World} (hab : Next h settings a b)
    (ha : a.1.WellBuilt) (hw : a.2.WellBuilt) :
    b.1.WellBuilt ∧ b.2.WellBuilt ∧ (b.1.current.isNode = true ∨ a.1.Asked b.1.current) := by
  obtain ⟨w, hdescribed, hm⟩ := hab.move
  have hw' : w.WellBuilt := by
    rcases hdescribed with rfl | ⟨text, rfl⟩
    · exact hw
    · exact hw.noted text
  exact hm.wellBuilt hh ⟨ha.current, ha.frames⟩ hw'

/-- **In every state that is reached all values are well built,** and the current one is a node unless
a callback asked for it in the state directly before. -/
theorem Reaches.wellBuilt (hh : h.Keeps) {start b : State × World} (hb : Reaches h settings start b)
    (hs : start.1.WellBuilt) (hn : start.1.current.isNode = true) (hw : start.2.WellBuilt) :
    b.1.WellBuilt ∧ b.2.WellBuilt ∧ (b.1.current.isNode = true ∨
      ∃ a, Reaches h settings start a ∧ Next h settings a b ∧ a.1.Asked b.1.current) := by
  induction hb with
  | refl => exact ⟨hs, hw, .inl hn⟩
  | @tail a b ha hab ih =>
    obtain ⟨hb, hw', hcurrent⟩ := hab.wellBuilt hh ih.1 ih.2.1
    exact ⟨hb, hw', hcurrent.imp_right fun hasked => ⟨a, ha, hab, hasked⟩⟩

/-! ### Where the machine gives up -/

/-- The next step ends the run because there is no node of a known variant to look at. -/
def GivesUp (h : Host) (settings : Settings) (b : State × World) (typeName : String) : Prop :=
  ∃ s w, step h settings b.1 b.2 = .ok (.halted (.aborted (.unknownVariant typeName)) s) w

variable {s s' : State} {w w' : World} {t : String}

/-- The limit on the stack is no unknown variant. -/
theorem checkLimit_ne_unknown : checkLimit settings s ≠ .halted (.aborted (.unknownVariant t)) s' := by
  unfold checkLimit
  split
  · exact Progress.noConfusion
  · split
    · split <;> intro hs <;> cases hs
    · exact Progress.noConfusion
  · intro hs
    cases hs

/-- A mishap is a failure or an interrupt, never a reason to give up. -/
theorem mishap_ne_unknown {mis : Mishap} :
    mishap s mis w ≠ .ok (.halted (.aborted (.unknownVariant t)) s') w' := by
  intro hm
  cases hfault : mis.1.kind.isFailure with
  | false =>
    rw [mishap_of_interrupt hfault] at hm
    cases hm
  | true =>
    rcases hs : s.stack.unwind with ⟨dropped, _ | ⟨g, rest⟩⟩
    · rw [mishap_of_no_landing hfault hs] at hm
      obtain ⟨hp, -⟩ := EStateM.Result.ok.inj hm
      cases hw : worded w mis.1 mis.2 s.counters.totalSteps dropped with
      | ok failure =>
        rw [hw] at hp
        cases hp
      | error c =>
        rw [hw] at hp
        cases hp
    · rw [mishap_of_landing hfault hs] at hm
      obtain ⟨r, w₁, -, hm⟩ := Eff.exists_of_bind_ok hm
      cases r <;> cases hm

theorem dispatch_done_ne_unknown {i : Nat} {v : Value} (hc : s.current = .node i (.done v)) :
    dispatch h settings s w ≠ .ok (.halted (.aborted (.unknownVariant t)) s') w' := by
  simp only [dispatch, hc]
  intro hs
  rcases hpop : s.stack.pop? with _ | ⟨f | g, below⟩
  · rw [hpop] at hs
    cases hs
  · rw [hpop] at hs
    simp only [continueWith_eq] at hs
    obtain ⟨r, w₁, -, hs⟩ := Eff.exists_of_bind_ok hs
    cases r with
    | ok node => exact checkLimit_ne_unknown (EStateM.Result.ok.inj hs).1
    | error mis => exact mishap_ne_unknown hs
  · rw [hpop] at hs
    cases hs

/-- The machine gives up on what is no node of a known variant, and on nothing else. -/
theorem eq_of_dispatch_unknown
    (hs : dispatch h settings s w = .ok (.halted (.aborted (.unknownVariant t)) s') w') :
    s.current.isKnown = false ∧ s.current.typeName = t := by
  cases hk : s.current.isKnown with
  | false =>
    rw [dispatch_unknown hk] at hs
    cases hs
    exact ⟨rfl, rfl⟩
  | true =>
    refine absurd hs ?_
    cases hc : s.current with
    | node i n =>
      cases n with
      | done v => exact dispatch_done_ne_unknown hc
      | delay thunk label =>
        simp only [dispatch, hc, perform_eq]
        intro hs
        obtain ⟨r, w₁, -, hs⟩ := Eff.exists_of_bind_ok hs
        cases r with
        | ok v => exact checkLimit_ne_unknown (EStateM.Result.ok.inj hs).1
        | error mis => exact mishap_ne_unknown hs
      | flatMap source f =>
        simp only [dispatch, hc]
        exact fun hs => checkLimit_ne_unknown (EStateM.Result.ok.inj hs).1
      | recover source g =>
        simp only [dispatch, hc]
        exact fun hs => checkLimit_ne_unknown (EStateM.Result.ok.inj hs).1
      | foreign variant =>
        rw [hc] at hk
        cases hk
    | _ =>
      rw [hc] at hk
      cases hk

/-- **The machine gives up in a well built state** whose current value is no node, and in no other,
unless that value cannot be written into the journal. -/
theorem givesUp_iff {b : State × World} (hb : b.1.WellBuilt) :
    GivesUp h settings b t ↔
      b.1.current.isNode = false ∧ b.1.current.typeName = t ∧ settings.Shows b.1 b.2 := by
  by_cases hshows : settings.Shows b.1 b.2
  · obtain ⟨w₁, -, hstep⟩ := step_of_shows (h := h) hshows
    constructor
    · rintro ⟨s, w, hgives⟩
      rw [hstep] at hgives
      obtain ⟨hk, ht⟩ := eq_of_dispatch_unknown hgives
      refine ⟨?_, ht, hshows⟩
      cases hn : b.1.current.isNode with
      | false => rfl
      | true =>
        have hknown : b.1.counted.current.isKnown = true :=
          Value.isKnown_of_wellBuilt hb.current hn
        rw [hknown] at hk
        cases hk
    · rintro ⟨hn, rfl, -⟩
      have hk : b.1.counted.current.isKnown = false := Value.isKnown_of_not_isNode hn
      refine ⟨b.1.counted.cleared, w₁, ?_⟩
      rw [hstep, dispatch_unknown hk]
      rfl
  · refine iff_of_false ?_ fun hgives => hshows hgives.2.2
    rintro ⟨s, w, hgives⟩
    obtain ⟨fault, hstep⟩ := step_of_not_shows (h := h) hshows
    rw [hstep] at hgives
    cases hgives

/-- A run that ends does so in a state that it reaches. -/
theorem exists_reaches_of_drive {fuel : Nat} {a : State × World} {e : Ending}
    (hrun : drive h settings fuel a.1 a.2 = .ok (e, s) w) :
    ∃ b, Reaches h settings a b ∧ step h settings b.1 b.2 = .ok (.halted e s) w := by
  induction fuel generalizing a with
  | zero => cases hrun
  | succ fuel ih =>
    obtain ⟨progress, w₁, hstep, hrest⟩ := Eff.exists_of_bind_ok hrun
    cases progress with
    | next s₁ =>
      have hnext : Next h settings a (s₁, w₁) := hstep
      obtain ⟨b, hb, hhalts⟩ := ih (a := (s₁, w₁)) hrest
      exact ⟨b, .head hnext hb, hhalts⟩
    | halted e' s₁ =>
      cases hrest
      exact ⟨a, .refl, hstep⟩

/-! ### What a continuation gives instead of a node -/

/-- A value that is no node is a failure of the continuation that gave it. -/
theorem applied_of_not_isNode {f v x : Value} (hx : h.invoke f [v] w = .ok x w')
    (hn : x.isNode = false) : applied h f v w =
      .ok (.error ((Complaint.continuationGave x.typeName).fault, w'.callableName f)) w' := by
  have hattempt : Eff.attempt (h.invoke f [v]) w = .ok (.ok x) w' := by
    rw [Eff.attempt, hx]
  rw [applied, Eff.bind_of_ok hattempt]
  simp only [hn]
  rfl

/-- **The answer of a continuation to a step that can be written into the journal:** what is no node
is dealt with like a failure that the continuation had raised. -/
theorem step_of_not_isNode {b : State × World} {i : Nat} {f v : Value} {rest : Stack}
    (hc : b.1.current = .node i (.done v)) (hstack : b.1.stack = rest.push (.continuation f))
    (hshows : settings.Shows b.1 b.2) :
    ∃ w₁, Described b.2 w₁ ∧ ∀ x w', h.invoke f [v] w₁ = .ok x w' → x.isNode = false →
      step h settings b.1 b.2 = mishap (b.1.counted.handed rest)
        ((Complaint.continuationGave x.typeName).fault, w'.callableName f) w' := by
  obtain ⟨w₁, hw₁, hstep⟩ := step_of_shows (h := h) hshows
  refine ⟨w₁, hw₁, fun x w' hx hn => ?_⟩
  have hpop : b.1.counted.stack.pop? = some (.continuation f, rest) := by
    rw [State.counted, hstack]
    exact Stack.pop?_push rest _
  rw [hstep, dispatch]
  have hcurrent : b.1.counted.current = .node i (.done v) := hc
  simp only [hcurrent, hpop, continueWith_eq]
  rw [Eff.bind_of_ok (applied_of_not_isNode hx hn)]
  rw [← hcurrent]
  rfl

end Machine

open Machine

/-- **The current value of a run is a node, unless a callback has asked for another.**  What the
library builds from well built arguments is a well built node, and from any such node on, over any
host that builds its nodes with the library, the following holds for every state that a run reaches.
Its current value is no node exactly if the sequence in the state before it had that value for its
source and goes on with a callback that asks.  The machine then gives up in the next step, whatever
stands on the stack, and never otherwise.  What a continuation gives instead of a node is an ordinary
failure, which the nearest boundary catches.  So a run is reported as given up exactly if it reaches
what a callback has asked for and got no node. -/
theorem isNode_current_unless_asked {h : Host} (hh : h.Keeps) (settings : Settings) {node : Value}
    (hnode : node.WellBuilt) (hn : node.isNode = true) {w : World} (hw : w.WellBuilt)
    {description : String} (hd : w.ticked.describe? node = .ok description) :
    let start : State × World := (.start node, w.opened description)
    (∀ args v, Graph.Call h args v → (∀ a ∈ args, a.WellBuilt) → v.isNode = true ∧ v.WellBuilt) ∧
      (∀ b, Reaches h settings start b →
        (b.1.current.isNode = false ↔
          ∃ a, Reaches h settings start a ∧ Next h settings a b ∧ a.1.Asked b.1.current) ∧
        (∀ t, GivesUp h settings b t ↔
          b.1.current.isNode = false ∧ b.1.current.typeName = t ∧ settings.Shows b.1 b.2) ∧
        ∀ i v f rest, b.1.current = .node i (.done v) → b.1.stack = rest.push (.continuation f) →
          settings.Shows b.1 b.2 → ∃ w₁, Described b.2 w₁ ∧
            ∀ x w', h.invoke f [v] w₁ = .ok x w' → x.isNode = false →
              ∃ mis : Mishap, mis.1.kind.isFailure = true ∧
                step h settings b.1 b.2 = mishap (b.1.counted.handed rest) mis w' ∧
                ∀ dropped g below w'', rest.unwind = ⟨dropped, some (g, below)⟩ →
                  recoveryNote mis.1 mis.2 dropped w' = .ok () w'' →
                    Next h settings b
                      ((b.1.counted.handed rest).recovered mis.1 dropped g below, w'')) ∧
      ∀ t, (∃ w', Reports h settings node w (.aborted (.unknownVariant t)) w') ↔
        ∃ a b, Reaches h settings start a ∧ Next h settings a b ∧ a.1.Asked b.1.current ∧
          b.1.current.typeName = t ∧ settings.Shows b.1 b.2 := by
  intro start
  have hstart : start.1.WellBuilt := ⟨hnode, List.forall_mem_nil _⟩
  have hreached (b : State × World) (hb : Reaches h settings start b) :=
    hb.wellBuilt hh hstart hn (hw.opened description)
  have hasked (b : State × World) (hb : Reaches h settings start b) : b.1.current.isNode = false ↔
      ∃ a, Reaches h settings start a ∧ Next h settings a b ∧ a.1.Asked b.1.current := by
    constructor
    · intro hfalse
      refine (hreached b hb).2.2.resolve_left fun htrue => ?_
      rw [hfalse] at htrue
      cases htrue
    · rintro ⟨a, -, -, i, f, -, -, hfalse⟩
      exact hfalse
  refine ⟨fun args v hcall hargs => hcall.wellBuilt hargs, fun b hb => ⟨hasked b hb,
    fun t => givesUp_iff (hreached b hb).1, fun i v f rest hc hstack hshows => ?_⟩, fun t => ?_⟩
  · obtain ⟨w₁, hw₁, hstep⟩ := step_of_not_isNode (h := h) hc hstack hshows
    refine ⟨w₁, hw₁, fun x w' hx hxn => ⟨_, rfl, hstep x w' hx hxn, ?_⟩⟩
    intro dropped g below w'' hlands hnote
    exact (hstep x w' hx hxn).trans (mishap_of_noted rfl hlands hnote)
  · constructor
    · rintro ⟨w', hreports⟩
      obtain ⟨c, fuel, s, hdrive, -⟩ := (reports_iff_runs hn hd).1 hreports
      obtain ⟨b, hb, hhalts⟩ := exists_reaches_of_drive (a := start) hdrive
      obtain ⟨hfalse, ht, hshows⟩ := (givesUp_iff (hreached b hb).1).1 ⟨s, w', hhalts⟩
      obtain ⟨a, ha, hab, hask⟩ := (hasked b hb).1 hfalse
      exact ⟨a, b, ha, hab, hask, ht, hshows⟩
    · rintro ⟨a, b, ha, hab, ⟨i, f, hc, hf, hfalse⟩, ht, hshows⟩
      have hb : Reaches h settings start b := ha.tail hab
      obtain ⟨s, w', hhalts⟩ := (givesUp_iff (hreached b hb).1).2 ⟨hfalse, ht, hshows⟩
      obtain ⟨fuel, hdrive⟩ := hb.drive_halted hhalts
      exact ⟨w', (reports_iff_runs hn hd).2 ⟨s.counters, fuel, s, hdrive, rfl⟩⟩

/-- A host whose functions give one value, whose iterables hold nothing else, and never end. -/
def Host.answering (v : Value) : Host where
  call := fun _ _ _ => pure v
  read := fun _ _ => pure v
  openIterator := fun _ => pure v
  pull := fun _ => pure (some v)
  send := fun _ _ => pure (.returned v)
  throw := fun _ _ => pure (.returned v)
  close := fun _ => pure ()

theorem Host.keeps_answering {v : Value} (hv : v.WellBuilt) : (Host.answering v).Keeps where
  call _ _ _ := .pure hv
  read _ _ := .pure hv
  openIterator _ := .pure hv
  pull _ := .pure fun e he => by
    obtain rfl := Option.mem_some.mp he
    exact hv
  send _ _ := .pure hv
  close _ := .pure trivial

/-- A session starts in a world that holds nothing but texts. -/
theorem Script.SessionInput.wellBuilt_world (s : SessionInput) : s.world.WellBuilt where
  globals := List.forall_mem_nil _
  layers := fun _ h => absurd h (Array.not_mem_empty _)
  lists := by simp [world]
  dicts := fun _ h => absurd h (Array.not_mem_empty _)
  deques := by simp [world]
  cells := fun _ h => absurd h (Array.not_mem_empty _)
  stats := fun _ h => absurd h (Array.not_mem_empty _)
  runStates := fun _ h => absurd h (Array.not_mem_empty _)
  iterators := fun _ h => absurd h (Array.not_mem_empty _)
  generators := fun _ h => absurd h (Array.not_mem_empty _)
  consoles := by simp [world]
  counters := List.forall_mem_nil _
  attributes := List.forall_mem_nil _

/-- A fold whose step gives a number is given up, although the fold is attempted. -/
theorem isNode_current_unless_asked_fold :
    let h := Host.answering (.int 5)
    let w := Script.SessionInput.recorded
    let node := Graph.attempt
      (Graph.foldWith (.ofItems [.int 1]) (.int 0) (.apply (.operation .length)))
    h.Keeps ∧ node.WellBuilt ∧ w.WellBuilt ∧
      ∃ w', Reports h (Script.settingsOf w .none (.bool false)) node w
        (.aborted (.unknownVariant "int")) w' := by
  intro h w node
  have hp : (Script.settingsOf w .none (.bool false)).Plain := Settings.plain_settingsOf w
  have hh : h.Keeps := Host.keeps_answering (Value.wellBuilt_int 5)
  have hw : w.WellBuilt := Script.SessionInput.wellBuilt_world _
  have hstep : ∀ p ∈ (FoldStep.apply (Value.operation .length)).parts, p.WellBuilt :=
    List.forall_mem_singleton.mpr (Value.wellBuilt_of_parts_eq_nil rfl rfl)
  have hitems : (Value.ofItems [.int 1]).WellBuilt :=
    (Value.wellBuilt_tuple 0 _).mpr (List.forall_mem_singleton.mpr (Value.wellBuilt_int 1))
  have hfold := Graph.wellBuilt_foldWith hitems (Value.wellBuilt_int 0) hstep
  have hnode : node.WellBuilt :=
    ((Graph.Call.attempt (h := h) hfold.1).wellBuilt (List.forall_mem_singleton.mpr hfold.2)).2
  have hd : w.ticked.describe? node =
      .ok "Recover(FlatMap, EffectNode.attempt.<locals>.<lambda>)" := rfl
  refine ⟨hh, hnode, hw, ?_⟩
  refine ((isNode_current_unless_asked hh (Script.settingsOf w .none (.bool false)) hnode rfl hw
    hd).2.2 "int").2 ?_
  -- the round of the fold is built above the boundary, and its source is the answer of the step
  have hround : applied h
      (.ofCallback (.suspended (.fold (.ofItems [.int 1]) (.int 0) (.apply (.operation .length)))))
      .none (w.opened "Recover(FlatMap, EffectNode.attempt.<locals>.<lambda>)") =
        .ok (.ok (.sequenced (.int 5) (.foldNext (.int 5) (.apply (.operation .length)))))
          (w.opened "Recover(FlatMap, EffectNode.attempt.<locals>.<lambda>)") := rfl
  refine ⟨_, _, ((((Relation.ReflTransGen.single (next_region hp 0 _ _ _ _ _)).tail
    (next_sequence hp 0 _ _ _ _ _)).tail (next_sequence hp 0 _ _ _ _ _)).tail
    (next_continuation hp hround 1 _ _)), next_sequence hp 0 _ _ _ _ _,
    ⟨0, _, rfl, rfl, rfl⟩, rfl, fun htrace => ?_⟩
  cases htrace

end EffectGraph
