import EffectGraph.Value

/-!
# The stack of the machine

The stack holds the frames that wait for a value, the topmost first, with their number.  It grows by
`Stack.push`, shrinks by `Stack.pop?`, and when something fails `Stack.unwind` drops the
continuations down to the nearest boundary.  A stack is known by its frames, and what is pushed last
is popped first.
-/

namespace EffectGraph
namespace Machine

/-- Frames that wait for a value, with their number. -/
structure Stack where
  frames : List (Frame Value)
  depth : Nat
  depth_eq : depth = frames.length

namespace Stack

/-- The stack without frames. -/
def empty : Stack := ⟨[], 0, rfl⟩

/-- A frame put on top. -/
def push (s : Stack) (f : Frame Value) : Stack :=
  ⟨f :: s.frames, s.depth + 1, by simp [s.depth_eq]⟩

/-- The topmost frame and the stack below it. -/
def pop? (s : Stack) : Option (Frame Value × Stack) :=
  match h : s.frames with
  | [] => none
  | f :: rest => some (f, ⟨rest, s.depth - 1, by simp [s.depth_eq, h]⟩)

/-- The frames below the nearest boundary with its handler, and how many continuations stood above
it; without a boundary, how many frames there were. -/
def unwindFrames : List (Frame Value) → Nat → Nat × Option (Value × List (Frame Value))
  | [], dropped => (dropped, none)
  | .boundary handler :: rest, dropped => (dropped, some (handler, rest))
  | .continuation _ :: rest, dropped => unwindFrames rest (dropped + 1)

/-- What is left when the frames above the nearest boundary, and the boundary itself, are dropped. -/
structure Unwound where
  /-- How many continuations were dropped. -/
  dropped : Nat
  /-- The boundary's handler and the stack below it; none if there was no boundary. -/
  landing : Option (Value × Stack)

/-- **Drops the frames down to the nearest boundary.** -/
def unwind (s : Stack) : Unwound :=
  match unwindFrames s.frames 0 with
  | (dropped, none) => ⟨dropped, none⟩
  | (dropped, some (handler, rest)) => ⟨dropped, some (handler, ⟨rest, rest.length, rfl⟩)⟩

/-- A stack is known by its frames. -/
theorem ext_frames {s t : Stack} (h : s.frames = t.frames) : s = t := by
  cases s
  cases t
  simp_all

@[simp]
theorem frames_empty : empty.frames = [] := rfl

@[simp]
theorem frames_push (s : Stack) (f : Frame Value) : (s.push f).frames = f :: s.frames := rfl

/-- An empty stack has no topmost frame. -/
theorem pop?_empty : empty.pop? = none := rfl

/-- What was pushed last is popped first. -/
theorem pop?_push (s : Stack) (f : Frame Value) : (s.push f).pop? = some (f, s) := by
  cases s
  simp [pop?, push]

/-- The continuations dropped are added to those dropped before. -/
theorem unwindFrames_add (frames : List (Frame Value)) (n : Nat) :
    unwindFrames frames n = ((unwindFrames frames 0).1 + n, (unwindFrames frames 0).2) := by
  induction frames generalizing n with
  | nil => simp [unwindFrames]
  | cons f rest ih =>
    cases f with
    | boundary handler => simp [unwindFrames]
    | continuation g =>
      simp only [unwindFrames]
      rw [ih (n + 1), ih 1]
      simp only [Prod.mk.injEq, and_true]
      omega

end Stack
end Machine
end EffectGraph
