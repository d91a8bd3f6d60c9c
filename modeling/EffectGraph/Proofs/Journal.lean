import EffectGraph.Script.Session
import EffectGraph.Proofs.Steps

/-!
# The clock and the journal

A run reads the clock when it begins and when it ends, and writes messages into the journal if that
records.  Both are invisible to scripts.  `World.opened` is the world in which the run of a node
begins, `World.closed` and `World.brokenOff` are the worlds that a run leaves behind; what else a run
has done to the world can be told from either (`World.closed_inj`, `World.brokenOff_inj`).
-/

namespace EffectGraph

namespace Journal

/-- The journal after the clock was read. -/
def ticked (j : Journal) : Journal := { j with clock := j.clock + 1000 }

/-- The journal with one more message, if it records. -/
def noted (j : Journal) (text : String) : Journal :=
  if j.recording then { j with messages := j.messages.push text } else j

theorem ticked_inj {j j' : Journal} (hj : j.ticked = j'.ticked) : j = j' := by
  obtain ⟨clock, recording, messages⟩ := j
  obtain ⟨clock', recording', messages'⟩ := j'
  simp only [ticked, mk.injEq, Nat.add_right_cancel_iff] at hj ⊢
  exact hj

theorem recording_noted (j : Journal) (text : String) : (j.noted text).recording = j.recording := by
  unfold noted
  split <;> rfl

theorem noted_inj {j j' : Journal} {text text' : String} (hj : j.noted text = j'.noted text') :
    j = j' := by
  have hr : j.recording = j'.recording := by
    rw [← recording_noted j text, hj, recording_noted]
  unfold noted at hj
  rw [hr] at hj
  split at hj
  · obtain ⟨clock, recording, messages⟩ := j
    obtain ⟨clock', recording', messages'⟩ := j'
    simp only [mk.injEq, Array.push_eq_push] at hj ⊢
    exact ⟨hj.1, hr, hj.2.2.2⟩
  · exact hj

end Journal

namespace World

/-- The world after the clock was read. -/
def ticked (w : World) : World := { w with journal := w.journal.ticked }

/-- The world with one more message in the journal, if that records. -/
def noted (w : World) (text : String) : World := { w with journal := w.journal.noted text }

/-- The world in which the run of a node of a given description begins. -/
def opened (w : World) (description : String) : World :=
  w.ticked.noted ("Run started: " ++ description)

/-- The world after a run whose last message is given. -/
def closed (w : World) (text : String) : World := w.ticked.noted text

/-- The world after a run that was interrupted in a step of a given number. -/
def brokenOff (w : World) (steps : Nat) : World :=
  (w.noted ("Run interrupted after " ++ steps.repr ++ " steps")).ticked

/-- A message that is not refused is written. -/
theorem note_of_ok {message : World → Except Complaint String} {w : World} {text : String}
    (hm : message w = .ok text) : note message w = .ok () (w.noted text) := by
  rw [note, Eff.bind_get, noted, Journal.noted]
  by_cases hr : w.journal.recording = true
  · rw [if_pos hr, if_pos hr, hm]
    rfl
  · rw [if_neg hr, if_neg hr]
    rfl

theorem note_apply (text : String) (w : World) :
    note (fun _ => .ok text) w = .ok () (w.noted text) := note_of_ok rfl

/-- Worlds that differ in nothing but the journal are known by it. -/
theorem eq_of_journal {w w' : World} {j j' : Journal}
    (hw : { w with journal := j } = { w' with journal := j' }) (hj : w.journal = w'.journal) :
    w = w' := by
  have hrest : w = { w' with journal := w.journal } :=
    congrArg (fun u : World => { u with journal := w.journal }) hw
  rw [hrest, hj]

theorem ticked_inj {w w' : World} (hw : w.ticked = w'.ticked) : w = w' :=
  eq_of_journal hw (Journal.ticked_inj (congrArg journal hw))

theorem noted_inj {w w' : World} {text text' : String} (hw : w.noted text = w'.noted text') :
    w = w' := eq_of_journal hw (Journal.noted_inj (congrArg journal hw))

/-- What a run did to the world is seen in the world after it. -/
theorem closed_inj {w w' : World} {text text' : String} (hw : w.closed text = w'.closed text') :
    w = w' := ticked_inj (noted_inj hw)

/-- What a run did to the world is seen in the world after it was interrupted, too. -/
theorem brokenOff_inj {w w' : World} {steps steps' : Nat}
    (hw : w.brokenOff steps = w'.brokenOff steps') : w = w' := noted_inj (ticked_inj hw)

end World

/-- The world in which a session without input starts, its journal recording. -/
def Script.SessionInput.recorded : World := SessionInput.world ⟨[], "", .feed, [], true⟩

namespace Machine

/-- The message that a boundary has caught a failure is written if the label has a text. -/
theorem recoveryNote_apply {w : World} {label : Value} {text : String} (hl : w.str? label = .ok text)
    (fault : Fault Value) (dropped : Nat) :
    recoveryNote fault label dropped w = .ok () (w.noted ("Recovering from " ++ fault.kind.name ++
      " in " ++ text ++ " (" ++ dropped.repr ++ " continuation(s) discarded)")) := by
  refine World.note_of_ok ?_
  rw [hl]
  rfl

end Machine
end EffectGraph
