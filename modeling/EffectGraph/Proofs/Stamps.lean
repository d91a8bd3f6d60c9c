import EffectGraph.Proofs.Steps
import EffectGraph.Script.Hosting

/-!
# What scripts do to the world by looking

Giving a value to a script takes fresh stamps and does nothing else (`settle_restamps`).  Reading an
attribute that the functions of the library ask for either finds it or complains, and takes at most
fresh stamps as well (`quiet_readAttribute`): nothing that a script has made is called for it.
-/

namespace EffectGraph

/-- **A world after some stamps were taken,** and nothing else was done. -/
def World.Restamped (w w' : World) : Prop := ∃ n, w.stamps ≤ n ∧ w' = { w with stamps := n }

namespace World.Restamped

variable {w w₁ w₂ : World}

theorem refl (w : World) : w.Restamped w := ⟨w.stamps, Nat.le_refl _, rfl⟩

theorem trans (h₁ : w.Restamped w₁) (h₂ : w₁.Restamped w₂) : w.Restamped w₂ := by
  obtain ⟨n, hn, rfl⟩ := h₁
  obtain ⟨m, hm, rfl⟩ := h₂
  exact ⟨m, Nat.le_trans hn hm, rfl⟩

end World.Restamped

namespace Eff

variable {α β : Type}

/-- A computation that gives a value and takes some stamps for it. -/
def Restamps (x : Eff α) : Prop := ∀ w, ∃ a w', x w = .ok a w' ∧ w.Restamped w'

/-- **A computation that gives a value or raises a fault** and takes at most some stamps for it. -/
def Quiet (x : Eff α) : Prop :=
  ∀ w, (∃ a w', x w = .ok a w' ∧ w.Restamped w') ∨
    ∃ fault w', x w = .error (.raised fault) w' ∧ w.Restamped w'

namespace Restamps

theorem pure (a : α) : (Pure.pure a : Eff α).Restamps := fun w => ⟨a, w, rfl, .refl w⟩

theorem freshStamp : World.freshStamp.Restamps :=
  fun w => ⟨w.stamps, _, rfl, w.stamps + 1, Nat.le_succ _, rfl⟩

theorem bind {x : Eff α} {f : α → Eff β} (hx : x.Restamps) (hf : ∀ a, (f a).Restamps) :
    (x >>= f).Restamps := by
  intro w
  obtain ⟨a, w₁, hxw, hw₁⟩ := hx w
  obtain ⟨b, w₂, hfw, hw₂⟩ := hf a w₁
  exact ⟨b, w₂, (bind_of_ok hxw).trans hfw, hw₁.trans hw₂⟩

theorem quiet {x : Eff α} (hx : x.Restamps) : x.Quiet := fun w => .inl (hx w)

end Restamps

namespace Quiet

theorem pure (a : α) : (Pure.pure a : Eff α).Quiet := (Restamps.pure a).quiet

theorem raise (fault : Fault Value) : (Eff.raise fault : Eff α).Quiet :=
  fun w => .inr ⟨fault, w, rfl, .refl w⟩

theorem complain (c : Complaint) : (Eff.complain c : Eff α).Quiet := raise c.fault

theorem ofExcept (c : Except Complaint α) : (Eff.ofExcept c).Quiet := by
  cases c with
  | ok a => exact pure a
  | error c => exact complain c

theorem ite {c : Prop} [Decidable c] {x y : Eff α} (hx : x.Quiet) (hy : y.Quiet) :
    (if c then x else y).Quiet := by
  split
  · exact hx
  · exact hy

theorem get_bind {f : World → Eff β} (hf : ∀ w, (f w).Quiet) : (get >>= f).Quiet := fun w => hf w w

theorem bind {x : Eff α} {f : α → Eff β} (hx : x.Quiet) (hf : ∀ a, (f a).Quiet) :
    (x >>= f).Quiet := by
  intro w
  rcases hx w with ⟨a, w₁, hxw, hw₁⟩ | ⟨fault, w₁, hxw, hw₁⟩
  · rw [bind_of_ok hxw]
    rcases hf a w₁ with ⟨b, w₂, hfw, hw₂⟩ | ⟨fault, w₂, hfw, hw₂⟩
    · exact .inl ⟨b, w₂, hfw, hw₁.trans hw₂⟩
    · exact .inr ⟨fault, w₂, hfw, hw₁.trans hw₂⟩
  · exact .inr ⟨fault, w₁, bind_of_error hxw, hw₁⟩

end Quiet
end Eff

namespace Script

/-! ### Handing values to scripts -/

/-- **Giving a value an identity takes stamps,** and so it is for everything that values are made of. -/
theorem settle_restamps :
    (∀ v, (settle v).Restamps) ∧ (∀ keywords, (settleKeywords keywords).Restamps) ∧
      (∀ n, (settleNode n).Restamps) ∧ (∀ detail, (settleDetail detail).Restamps) ∧
      (∀ vs, (settleAll vs).Restamps) ∧ ∀ entries, (settleEntries entries).Restamps := by
  have fresh := Eff.Restamps.freshStamp
  apply settle.mutual_induct (fun v => (settle v).Restamps)
    (fun keywords => (settleKeywords keywords).Restamps) (fun n => (settleNode n).Restamps)
    (fun detail => (settleDetail detail).Restamps) (fun vs => (settleAll vs).Restamps)
    (fun entries => (settleEntries entries).Restamps)
  -- every value is made of a fresh stamp and its settled parts, or stays as it is
  all_goals intros
  all_goals simp only [settle, settleAll, settleEntries, settleKeywords, settleNode, settleDetail, *]
  all_goals repeat' first | exact .pure _ | exact fresh | assumption | refine .bind ?_ fun _ => ?_

/-- A node that is handed to a script is a node. -/
theorem isNode_of_settle {v v' : Value} {w w' : World} (hv : v.isNode = true)
    (hs : settle v w = .ok v' w') : v'.isNode = true := by
  cases v with
  | node stamp n =>
    cases stamp with
    | zero =>
      rw [settle] at hs
      obtain ⟨n', w₁, -, hrest⟩ := Eff.exists_of_bind_ok hs
      obtain ⟨m, w₂, -, hrest⟩ := Eff.exists_of_bind_ok hrest
      cases hrest
      rfl
    | succ stamp =>
      rw [settle] at hs
      · cases hs
        rfl
      all_goals simp
  | _ => cases hv

/-- The items of a list can always be looked at, which changes stamps and the items of lists. -/
theorem exists_settledItems (address : Nat) (w : World) :
    ∃ items stamps lists unsettled, w.stamps ≤ stamps ∧
      settledItems address w = .ok items { w with stamps, lists, unsettled } := by
  show ∃ items stamps lists unsettled, w.stamps ≤ stamps ∧
    (if w.unsettled.contains address then _ else _ : Eff (Array Value)) w = .ok items _
  split
  · obtain ⟨settled, w₁, hs, n, hn, rfl⟩ := settle_restamps.2.2.2.2.1 (w.listItems address).toList w
    exact ⟨_, n, _, _, hn, Eff.bind_of_ok hs⟩
  · exact ⟨_, w.stamps, w.lists, w.unsettled, Nat.le_refl _, rfl⟩

/-! ### Reading attributes -/

/-- The names of what the functions of the library ask their arguments for. -/
def asked : List String :=
  ["as_", "attempt", "flat_map", "map", "recover", "skip", "read_line", "write_line", "ref_id", "_read"]

/-- None of them is computed by a class. -/
theorem property?_of_asked {name : String} (hname : name ∈ asked) (v : Value) :
    property? v name = none := by
  simp only [asked, List.mem_cons, List.not_mem_nil, or_false] at hname
  rcases hname with rfl | rfl | rfl | rfl | rfl | rfl | rfl | rfl | rfl | rfl <;> cases v <;> rfl

/-- Nor does what a fault offers besides its fields. -/
theorem kindField?_of_asked {name : String} (hname : name ∈ asked) (f : Fault Value) :
    kindField? f name = pure none := by
  simp only [asked, List.mem_cons, List.not_mem_nil, or_false] at hname
  obtain ⟨kind, args, detail, stamp⟩ := f
  have hsame : (if !kind.isA .osError then pure none else pure none : Eff (Option Value)) = pure none :=
    ite_self _
  rcases hname with rfl | rfl | rfl | rfl | rfl | rfl | rfl | rfl | rfl | rfl <;>
    cases detail <;> exact hsame

theorem presetField?_of_asked {name : String} (hname : name ∈ asked) (v : Value) :
    presetField? v name = pure none := by
  simp only [asked, List.mem_cons, List.not_mem_nil, or_false] at hname
  rcases hname with rfl | rfl | rfl | rfl | rfl | rfl | rfl | rfl | rfl | rfl <;> cases v <;> rfl

/-- What an object has of its own under such a name is looked up and nothing else. -/
theorem quiet_ownAttribute? {name : String} (hname : name ∈ asked) (v : Value) :
    (ownAttribute? v name).Quiet := by
  unfold ownAttribute?
  refine .get_bind fun w => ?_
  split
  · simp [asked] at hname
  · exact .pure _
  · split
    · rw [kindField?_of_asked hname]
      exact .pure _
    · split
      · exact .pure _
      · simp [asked] at hname
      · exact .pure _
    · rw [presetField?_of_asked hname]
      exact .pure _
    · exact .pure _

/-- **Reading such an attribute finds it or complains,** and takes at most stamps. -/
theorem quiet_readAttribute {name : String} (hname : name ∈ asked) (v : Value) :
    (readAttribute v name).Quiet := by
  unfold readAttribute
  rw [property?_of_asked hname]
  refine (quiet_ownAttribute? hname v).bind fun found => ?_
  split
  · exact .pure _
  · refine .get_bind fun w => ?_
    split
    · exact (settle_restamps.1 _).quiet
    · exact .raise _
  · refine .get_bind fun w => ?_
    split
    · exact .pure _
    · exact (settle_restamps.1 _).quiet
    · exact .pure _
    · exact .raise _

end Script
end EffectGraph
