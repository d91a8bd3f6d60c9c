import EffectGraph.Proofs.Rounds
import EffectGraph.Proofs.Moves

/-!
# Tail positions

A node that is a sequence or a guarded node holds one frame of its own while its source is run, and
none before and after.  What comes after is in tail position: the node that the continuation or the
handler returns stands where the first one stood.  `Turn` is one such move from a node to the next,
and `Spine` is a chain of them.

The machine runs a source above a frame as it runs it alone (`Next.below`).  So every state of a run
is of one of two kinds (`reaches_stands`): the stack is empty and the current node is the end of a
spine; or there is one frame at the bottom, that of the end of a spine, and all above it is as in a
run of its source alone.  The depth counted so far is one more than that of the deepest source.
-/

namespace EffectGraph
namespace Machine

variable {h : Host} {settings : Settings}

/-! ### Runs above one frame -/

/-- A stack with a frame on top has a top. -/
theorem Stack.exists_push {s : Stack} {f : Frame Value} {fs : List (Frame Value)}
    (hs : s.frames = f :: fs) : ∃ t : Stack, s = t.push f ∧ t.frames = fs :=
  ⟨⟨fs, fs.length, rfl⟩, ext_frames hs, rfl⟩

/-- What is on top of a stack with one more frame at the bottom is on top of the stack itself, unless
that is empty. -/
theorem Stack.exists_push_below {s t rest : Stack} {frame f : Frame Value}
    (hst : t.frames = s.frames ++ [frame]) (ht : t = rest.push f) :
    s = .empty ∨ ∃ s' : Stack, s = s'.push f ∧ rest.frames = s'.frames ++ [frame] := by
  subst ht
  rw [frames_push] at hst
  cases hs : s.frames with
  | nil => exact .inl (ext_frames hs)
  | cons f' fs =>
    obtain ⟨s', rfl, rfl⟩ := exists_push hs
    rw [frames_push, List.cons_append] at hst
    injection hst with hf hrest
    subst hf
    exact .inr ⟨s', rfl, hrest⟩

/-- **A failure above one more frame** lands where it lands without that frame, or else on the frame. -/
theorem Stack.unwind_below {s t rest : Stack} {frame : Frame Value} {dropped : Nat} {g : Value}
    (hst : t.frames = s.frames ++ [frame]) (ht : t.unwind = ⟨dropped, some (g, rest)⟩) :
    (∃ inner, s.unwind = ⟨dropped, some (g, inner)⟩ ∧ rest.frames = inner.frames ++ [frame]) ∨
      (frame = .boundary g ∧ (∀ f ∈ s.frames, f.isBoundary = false) ∧ dropped = s.depth ∧
        rest = .empty) := by
  rcases hs : s.unwind with ⟨n, landing⟩
  cases landing with
  | some landing =>
    obtain ⟨g', inner⟩ := landing
    obtain ⟨fs, hframes, hfs, rfl⟩ := exists_of_unwind hs
    have hlands : t.unwind = ⟨fs.length, some (g', ⟨inner.frames ++ [frame], _, rfl⟩)⟩ := by
      refine unwind_of_boundary ?_ hfs
      rw [hst, hframes, List.append_assoc, List.cons_append]
    rw [hlands] at ht
    cases ht
    exact .inl ⟨inner, rfl, rfl⟩
  | none =>
    obtain ⟨hfs, -⟩ := forall_of_unwind hs
    cases frame with
    | boundary g' =>
      have hlands : t.unwind = ⟨s.frames.length, some (g', .empty)⟩ := unwind_of_boundary hst hfs
      rw [hlands] at ht
      cases ht
      exact .inr ⟨rfl, hfs, s.depth_eq.symm, rfl⟩
    | continuation f =>
      have hall : ∀ f ∈ t.frames, f.isBoundary = false := by
        rw [hst]
        intro f' hf'
        rcases List.mem_append.1 hf' with hf' | hf'
        · exact hfs f' hf'
        · rw [List.mem_singleton.1 hf']
          rfl
      rw [unwind_of_continuations hall] at ht
      cases ht

/-- Without tracing a step is a move in the world as it is. -/
theorem Next.move_plain (hp : settings.Plain) {a b : State × World} (hab : Next h settings a b) :
    Move h a.1.counted a.2 b.1 b.2 := by
  have hmove := hab.move_seen
  rwa [Settings.seen, hp.untraced] at hmove

/-- One state stands above a frame as another one stands without it, after a depth of `n`. -/
structure Above (frame : Frame Value) (n : Nat) (a b : State × World) : Prop where
  current : b.1.current = a.1.current
  frames : b.1.stack.frames = a.1.stack.frames ++ [frame]
  peak : b.1.counters.maxStackDepth = max n (a.1.counters.maxStackDepth + 1)
  world : b.2 = a.2

/-- **What is left to the frame** by a state above it, from which a step leads to `b`. -/
inductive Leaves (h : Host) (settings : Settings) (frame : Frame Value) (n : Nat)
    (a b : State × World) : Prop where
  /-- The value of a finished node, with nothing else waiting for it. -/
  | value {i v} (hc : a.1.current = .node i (.done v)) (hs : a.1.stack = .empty)
  /-- A failure that nothing else catches. -/
  | failure {s mis w g} (hstep : step h settings a.1 a.2 = mishap s mis w)
      (hfault : mis.1.kind.isFailure = true) (hs : ∀ f ∈ s.stack.frames, f.isBoundary = false)
      (hframe : frame = .boundary g)
      (hnote : recoveryNote mis.1 mis.2 s.stack.depth w = .ok () b.2)
      (hcurrent : b.1.current = .ofNode (.flatMap (.done (.fault mis.1)) g))
      (hempty : b.1.stack = .empty)
      (hpeak : b.1.counters.maxStackDepth = max n (a.1.counters.maxStackDepth + 1))

variable {frame : Frame Value} {n : Nat}

/-- A failure in a state above a frame is caught as without the frame, or else by the frame. -/
theorem Above.caught {a b : State × World} {S : State} {s t rest : Stack} {k : Counters}
    {mis : Mishap} {dropped : Nat} {g : Value} {w : World}
    (hstep : step h settings a.1 a.2 = mishap S mis w) (hS : S.stack = s)
    (hk : S.counters.maxStackDepth = a.1.counters.maxStackDepth)
    (hst : t.frames = s.frames ++ [frame]) (hfault : mis.1.kind.isFailure = true)
    (hlands : t.unwind = ⟨dropped, some (g, rest)⟩)
    (hnote : recoveryNote mis.1 mis.2 dropped w = .ok () b.2)
    (hb : b.1 = ⟨.ofNode (.flatMap (.done (.fault mis.1)) g), rest, k⟩)
    (hpeak : k.maxStackDepth = max n (a.1.counters.maxStackDepth + 1)) :
    (∃ a', Next h settings a a' ∧ Above frame n a' b) ∨ Leaves h settings frame n a b := by
  subst hS
  rcases Stack.unwind_below hst hlands with ⟨inner, hinner, hrest⟩ | ⟨hframe, hfs, rfl, rfl⟩
  · refine .inl ⟨(S.recovered mis.1 dropped g inner, b.2),
      hstep.trans (mishap_of_noted hfault hinner hnote), ?_⟩
    rw [← hk] at hpeak
    exact ⟨by rw [hb]; rfl, by rw [hb]; exact hrest, by rw [hb]; exact hpeak, rfl⟩
  · exact .inr (.failure hstep hfault hfs hframe hnote (by rw [hb]) (by rw [hb]) (by rw [hb]; exact hpeak))

/-- **A step above a frame is the step without the frame,** unless something is left to the frame. -/
theorem Next.below (hp : settings.Plain) {a b b' : State × World} (hab : Above frame n a b)
    (hb : Next h settings b b') :
    (∃ a', Next h settings a a' ∧ Above frame n a' b') ∨ Leaves h settings frame n a b' := by
  obtain ⟨⟨node, s, k⟩, w⟩ := a
  obtain ⟨⟨node', t, l⟩, w₀⟩ := b
  obtain ⟨hcurrent, hframes, hpeak, hworld⟩ := hab
  simp only at hcurrent hframes hpeak hworld
  subst hcurrent hworld
  have hdepth : t.depth = s.depth + 1 := by
    rw [t.depth_eq, s.depth_eq, hframes, List.length_append, List.length_singleton]
  obtain ⟨b', w'⟩ := b'
  have hmove : Move h ⟨node', t, l.stepped⟩ w₀ b' w' := hb.move_plain hp
  cases hmove with
  | @push i source f hc =>
    cases hc
    refine .inl ⟨_, next_sequence hp i source f s k w₀, rfl, congrArg (List.cons _) hframes, ?_, rfl⟩
    simp only [State.enter, Stack.push, Counters.entered, Counters.stepped]
    omega
  | @guard i source g hc =>
    cases hc
    refine .inl ⟨_, next_region hp i source g s k w₀, rfl, congrArg (List.cons _) hframes, ?_, rfl⟩
    simp only [State.enter, Stack.push, Counters.entered, Counters.stepped]
    omega
  | @act i thunk label v w' hc hrun =>
    cases hc
    exact .inl ⟨_, next_action hp hrun i s k, rfl, hframes, hpeak, rfl⟩
  | @pass i v g rest hc hs =>
    cases hc
    rcases Stack.exists_push_below hframes hs with rfl | ⟨s', rfl, hrest⟩
    · exact .inr (.value rfl rfl)
    · exact .inl ⟨_, next_boundary hp i v g s' k w₀, rfl, hrest, hpeak, rfl⟩
  | @hand i v f rest node w' hc hs hf =>
    cases hc
    rcases Stack.exists_push_below hframes hs with rfl | ⟨s', rfl, hrest⟩
    · exact .inr (.value rfl rfl)
    · exact .inl ⟨_, next_continuation hp hf i s' k, rfl, hrest, hpeak, rfl⟩
  | @handCaught i v f below mis dropped g rest w₁ w' hc hs hf hfault hlands hnote =>
    cases hc
    rcases Stack.exists_push_below hframes hs with rfl | ⟨s', rfl, hbelow⟩
    · exact .inr (.value rfl rfl)
    · have hstep : step h settings ⟨.node i (.done v), s'.push (.continuation f), k⟩ w₀ =
          mishap ⟨.node i (.done v), s', k.invoked⟩ mis w₁ := by
        rw [step_continuation hp, Eff.bind_of_ok hf]
      exact Above.caught hstep rfl rfl hbelow hfault hlands hnote rfl hpeak
  | @actCaught i thunk label mis dropped g rest w₁ w' hc hrun hfault hlands hnote =>
    cases hc
    have hstep : step h settings ⟨.node i (.delay thunk label), s, k⟩ w₀ =
        mishap ⟨.node i (.delay thunk label), s, k.stepped⟩ mis w₁ := by
      rw [step_action hp, Eff.bind_of_ok hrun]
    exact Above.caught hstep rfl rfl hframes hfault hlands hnote rfl hpeak

/-! ### Turns and spines -/

/-- The frame that a node holds while its source is run, and the source. -/
def opening : Value → Option (Frame Value × Value)
  | .node _ (.flatMap source f) => some (.continuation f, source)
  | .node _ (.recover source g) => some (.boundary g, source)
  | _ => none

theorem exists_of_opening_continuation {node f source : Value}
    (hn : opening node = some (.continuation f, source)) : ∃ i, node = .node i (.flatMap source f) := by
  unfold opening at hn
  split at hn <;> cases hn
  exact ⟨_, rfl⟩

theorem exists_of_opening_boundary {node g source : Value}
    (hn : opening node = some (.boundary g, source)) : ∃ i, node = .node i (.recover source g) := by
  unfold opening at hn
  split at hn <;> cases hn
  exact ⟨_, rfl⟩

/-- **From one node to the next in tail position,** with the source that is run before it.  What a
boundary has caught is handed to the handler in a turn of its own. -/
inductive Turn (h : Host) (settings : Settings) : Value → World → List Part → Value → World → Prop where
  /-- An action is performed. -/
  | act {i thunk label v w w'} (hrun : performed h thunk label w = .ok (.ok v) w') :
      Turn h settings (.node i (.delay thunk label)) w [] (.done v) w'
  /-- A continuation returns the next node. -/
  | hand {i j source f v node m w w₁ w₂}
      (hsource : Reaches h settings (.start source, w) (⟨.node j (.done v), .empty, m⟩, w₁))
      (hf : applied h f v w₁ = .ok (.ok node) w₂) :
      Turn h settings (.node i (.flatMap source f)) w [⟨source, w, m⟩] node w₂
  /-- A value passes a boundary. -/
  | pass {i j source g v m w w₁}
      (hsource : Reaches h settings (.start source, w) (⟨.node j (.done v), .empty, m⟩, w₁)) :
      Turn h settings (.node i (.recover source g)) w [⟨source, w, m⟩] (.node j (.done v)) w₁
  /-- A failure that the source does not catch reaches its boundary. -/
  | caught {i source g a s mis w w₁ w₂} (hsource : Reaches h settings (.start source, w) a)
      (hstep : step h settings a.1 a.2 = mishap s mis w₁) (hfault : mis.1.kind.isFailure = true)
      (hs : ∀ f ∈ s.stack.frames, f.isBoundary = false)
      (hnote : recoveryNote mis.1 mis.2 s.stack.depth w₁ = .ok () w₂) :
      Turn h settings (.node i (.recover source g)) w [⟨source, w, a.1.counters⟩]
        (.ofNode (.flatMap (.done (.fault mis.1)) g)) w₂

/-- **Turns from a node to another one,** with all the sources that are run, the newest first. -/
inductive Spine (h : Host) (settings : Settings) (node : Value) (w : World) :
    List Part → Value → World → Prop where
  | here : Spine h settings node w [] node w
  | turn {parts sources last next w₁ w₂} (hs : Spine h settings node w parts last w₁)
      (ht : Turn h settings last w₁ sources next w₂) :
      Spine h settings node w (sources ++ parts) next w₂

end Machine

/-- The largest depth that any of the parts has reached. -/
def deepest (parts : List Part) : Nat := (parts.map (·.cost.maxStackDepth)).foldr max 0

/-- The depth that is reached by parts that are each run above one frame. -/
def peak : List Part → Nat
  | [] => 0
  | parts => deepest parts + 1

theorem deepest_nil : deepest [] = 0 := rfl

theorem deepest_cons (p : Part) (parts : List Part) :
    deepest (p :: parts) = max p.cost.maxStackDepth (deepest parts) := rfl

theorem peak_cons (p : Part) (parts : List Part) :
    peak (p :: parts) = max (peak parts) (p.cost.maxStackDepth + 1) := by
  cases parts with
  | nil => simp only [peak, deepest, List.map, List.foldr]; omega
  | cons p' parts => simp only [peak, deepest_cons]; omega

namespace Machine

/-- **How a state stands to the end of a spine:** its node is at that end and nothing waits for it, or
it is one of a run of the source of that end, with one frame below. -/
inductive Stands (h : Host) (settings : Settings) (parts : List Part) (last : Value) (w : World) :
    State × World → Prop where
  | bare {c : Counters} (hpeak : c.maxStackDepth = peak parts) :
      Stands h settings parts last w (⟨last, .empty, c⟩, w)
  | framed {frame source a b} (hopening : opening last = some (frame, source))
      (ha : Reaches h settings (.start source, w) a) (hb : Above frame (peak parts) a b) :
      Stands h settings parts last w b

section spine

variable {h : Host} {settings : Settings} (hp : settings.Plain) {node last : Value} {w₀ w : World}
  {parts : List Part} {a b : State × World}
include hp

/-- From a node that nothing waits for, a step opens its frame or performs it. -/
theorem Stands.next_bare {c : Counters} (hs : Spine h settings node w₀ parts last w)
    (hpeak : c.maxStackDepth = peak parts) (hb : Next h settings (⟨last, .empty, c⟩, w) b) :
    ∃ parts last w, Spine h settings node w₀ parts last w ∧ Stands h settings parts last w b := by
  obtain ⟨b, w'⟩ := b
  have hmove : Move h ⟨last, .empty, c.stepped⟩ w b w' := hb.move_plain hp
  cases hmove with
  | push hc =>
    cases hc
    refine ⟨_, _, _, hs, .framed rfl .refl ⟨rfl, rfl, ?_, rfl⟩⟩
    simp only [State.enter, Stack.push, Stack.empty, Counters.stepped, State.start, Counters.zero]
    omega
  | guard hc =>
    cases hc
    refine ⟨_, _, _, hs, .framed rfl .refl ⟨rfl, rfl, ?_, rfl⟩⟩
    simp only [State.enter, Stack.push, Stack.empty, Counters.stepped, State.start, Counters.zero]
    omega
  | act hc hrun =>
    cases hc
    exact ⟨_, _, _, hs.turn (.act hrun), .bare hpeak⟩
  | pass hc hs => cases congrArg Stack.frames hs
  | hand hc hs hf => cases congrArg Stack.frames hs
  | handCaught hc hs hf hfault hlands hnote => cases congrArg Stack.frames hs
  | actCaught hc hrun hfault hlands hnote => cases hlands

/-- A value that nothing waits for but the frame goes to the frame. -/
theorem Stands.next_value {frame : Frame Value} {source v : Value} {i : Nat}
    (hs₀ : Spine h settings node w₀ parts last w) (hopening : opening last = some (frame, source))
    (ha : Reaches h settings (.start source, w) a) (hab : Above frame (peak parts) a b)
    (hc : a.1.current = .node i (.done v)) (hempty : a.1.stack = .empty) {b' : State × World}
    (hb : Next h settings b b') :
    ∃ parts last w, Spine h settings node w₀ parts last w ∧ Stands h settings parts last w b' := by
  obtain ⟨⟨_, _, m⟩, w₁⟩ := a
  obtain ⟨⟨_, t, l⟩, _⟩ := b
  obtain ⟨b', w'⟩ := b'
  cases hc
  cases hempty
  obtain ⟨hcurrent, hframes, hcount, hworld⟩ := hab
  cases hcurrent
  cases hworld
  have ht : t = Stack.empty.push frame := Stack.ext_frames hframes
  subst ht
  have hmove : Move h ⟨.node i (.done v), Stack.empty.push frame, l.stepped⟩ w₁ b' w' := hb.move_plain hp
  cases hmove with
  | @pass i v g rest hc hs =>
    cases hc
    obtain ⟨rfl, hrest⟩ := List.cons.inj (congrArg Stack.frames hs)
    have hbelow : rest = .empty := Stack.ext_frames hrest.symm
    subst hbelow
    obtain ⟨j, rfl⟩ := exists_of_opening_boundary hopening
    refine ⟨_, _, _, hs₀.turn (.pass ha), .bare ?_⟩
    rw [List.singleton_append, peak_cons]
    exact hcount
  | @hand i v f rest next w' hc hs hf =>
    cases hc
    obtain ⟨rfl, hrest⟩ := List.cons.inj (congrArg Stack.frames hs)
    have hbelow : rest = .empty := Stack.ext_frames hrest.symm
    subst hbelow
    obtain ⟨j, rfl⟩ := exists_of_opening_continuation hopening
    refine ⟨_, _, _, hs₀.turn (.hand ha hf), .bare ?_⟩
    rw [List.singleton_append, peak_cons]
    exact hcount
  | @handCaught i v f below mis dropped g rest w₂ w' hc hs hf hfault hlands hnote =>
    obtain ⟨rfl, hrest⟩ := List.cons.inj (congrArg Stack.frames hs)
    have hbelow : below = .empty := Stack.ext_frames hrest.symm
    subst hbelow
    cases hlands
  | push hc => cases hc
  | guard hc => cases hc
  | act hc hrun => cases hc
  | actCaught hc hrun hfault hlands hnote => cases hc

/-- **A step leads on along a spine.** -/
theorem Stands.next (hs : Spine h settings node w₀ parts last w)
    (ha : Stands h settings parts last w a) (hb : Next h settings a b) :
    ∃ parts last w, Spine h settings node w₀ parts last w ∧ Stands h settings parts last w b := by
  cases ha with
  | bare hpeak => exact next_bare hp hs hpeak hb
  | @framed frame source a' a hopening ha' hab =>
    rcases hb.below hp hab with ⟨b', hnext, hbelow⟩ | hleaves
    · exact ⟨_, _, _, hs, .framed hopening (ha'.tail hnext) hbelow⟩
    · cases hleaves with
      | value hc hempty => exact next_value hp hs hopening ha' hab hc hempty hb
      | failure hstep hfault hfs hframe hnote hcurrent hempty hcount =>
        subst hframe
        obtain ⟨⟨_, _, l⟩, w'⟩ := b
        cases hcurrent
        cases hempty
        obtain ⟨i, rfl⟩ := exists_of_opening_boundary hopening
        refine ⟨_, _, _, hs.turn (.caught ha' hstep hfault hfs hnote), .bare ?_⟩
        rw [List.singleton_append, peak_cons]
        exact hcount

end spine

/-- **Every state of a run is at the end of a spine, or above the frame of one.** -/
theorem reaches_stands {h : Host} {settings : Settings} (hp : settings.Plain) {node : Value}
    {w : World} {b : State × World}
    (hb : Reaches h settings (.start node, w) b) :
    ∃ parts last w₁, Spine h settings node w parts last w₁ ∧ Stands h settings parts last w₁ b := by
  induction hb with
  | refl => exact ⟨[], node, w, .here, .bare rfl⟩
  | tail _ hnext ih =>
    obtain ⟨parts, last, w₁, hs, ha⟩ := ih
    exact ha.next hp hs hnext

end Machine
end EffectGraph
