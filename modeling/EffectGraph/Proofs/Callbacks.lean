import EffectGraph.Proofs.Keeping
import EffectGraph.Proofs.Programs

/-!
# The library keeps values well built

What the library does itself when a node is run: numbers are read and multiplied, consoles are read
and written, callbacks and methods are invoked.  All of it keeps values well built over any host that
does (`Host.Keeps.invoke`).
-/

namespace EffectGraph

variable {h : Host} {v f console text : Value}

/-! ### Numbers -/

namespace Arithmetic

/-- A sum is a number. -/
theorem wellBuilt_addNumber {operator : String} {n : Number} {sum : Value}
    (hsum : addNumber operator v n = .ok sum) : sum.WellBuilt := by
  unfold addNumber at hsum
  split at hsum
  · next m _ =>
    cases hm : m.add n with
    | error c =>
      rw [hm] at hsum
      cases hsum
    | ok total =>
      rw [hm] at hsum
      cases hsum
      exact total.wellBuilt_toValue
  · split at hsum <;> cases hsum

theorem keeps_increase (v amount : Value) : Eff.Keeps Value.WellBuilt (increase v amount) := by
  unfold increase
  split
  · exact .complain _
  · exact .complain _
  · exact .ofExcept fun _ hsum => wellBuilt_addNumber hsum
  · exact .complain _

/-- A row repeated has the items of the row. -/
theorem mem_of_mem_repeated {items : List Value} {times : Int} {item : Value}
    (hi : item ∈ repeated items times) : item ∈ items := by
  obtain ⟨l, hl, hi⟩ := List.mem_flatten.mp hi
  rw [List.eq_of_mem_replicate hl] at hi
  exact hi

theorem keeps_refuse (a b : Value) : Eff.Keeps Value.WellBuilt (multiply.refuse a b) :=
  .ite (.complain _) (.ite (.complain _) (.complain _))

theorem keeps_row (hv : v.WellBuilt) (n : Int) (a b : Value) :
    Eff.Keeps Value.WellBuilt (multiply.row v n a b) := by
  cases v with
  | str s => exact .pure (Value.wellBuilt_str _)
  | tuple stamp items =>
    rw [Value.wellBuilt_tuple] at hv
    exact .pure ((Value.wellBuilt_tuple 0 _).mpr fun item hi => hv item (mem_of_mem_repeated hi))
  | list address =>
    refine .bind .get fun w hw => World.keeps_newList fun item hi => ?_
    exact hw.listItems (Array.mem_toList_iff.mp (mem_of_mem_repeated (List.mem_toArray.mp hi)))
  | _ => exact keeps_refuse a b

theorem keeps_multiply {a b : Value} (ha : a.WellBuilt) (hb : b.WellBuilt) :
    Eff.Keeps Value.WellBuilt (multiply a b) := by
  unfold multiply
  split
  · exact .bind (.ofExcept fun _ _ => trivial) fun n _ => .pure n.wellBuilt_toValue
  · exact keeps_row ha _ _ _
  · exact keeps_row hb _ _ _
  · exact keeps_refuse a b

end Arithmetic

namespace Reading

/-- A whole number carries nothing, whatever it was read from. -/
theorem keeps_int (v : Value) : Eff.Keeps Value.WellBuilt (int v) := by
  unfold int
  split
  · exact .pure (Value.wellBuilt_int _)
  · exact .pure (Value.wellBuilt_int _)
  · split
    · exact .pure (Value.wellBuilt_int _)
    · exact .complain _
    · exact .complain _
  · split
    · exact .pure (Value.wellBuilt_int _)
    · exact .complain _
    · exact .complain _
  · exact .complain _

theorem keeps_float (v : Value) : Eff.Keeps Value.WellBuilt (float v) := by
  unfold float
  split
  · exact .pure (Value.wellBuilt_float _ _)
  · split
    · exact .pure (Value.wellBuilt_float _ _)
    · exact .complain _
  · split
    · exact .bind (.ofExcept fun _ _ => trivial) fun _ _ => .pure (Value.wellBuilt_float _ _)
    · exact .complain _

end Reading

/-- The fault for what is not a number carries it and the refusal to read it. -/
theorem Fault.wellBuilt_notANumber (hv : v.WellBuilt) (shown : String) {refusal : List (Fault Value)}
    (hr : ∀ r ∈ refusal, r.WellBuilt) : (Fault.notANumber v shown refusal).WellBuilt := by
  have hdetail : ∀ p ∈ v :: refusal.map Value.fault, p.WellBuilt :=
    List.forall_mem_cons.mpr
      ⟨hv, List.forall_mem_map.mpr fun r hmem => (Value.wellBuilt_fault r).mpr (hr r hmem)⟩
  exact List.forall_mem_append.mpr
    ⟨List.forall_mem_singleton.mpr (Value.wellBuilt_str _), hdetail⟩

theorem Value.keeps_parseNumber (hh : h.Keeps) (hv : v.WellBuilt) :
    Eff.Keeps WellBuilt (v.parseNumber h) := by
  unfold parseNumber
  split
  · split
    · next n _ => exact .pure n.wellBuilt_toValue
    · exact .raise (Fault.wellBuilt_notANumber hv _
        (List.forall_mem_singleton.mpr (Complaint.wellBuilt_fault _)))
  · refine .bind (hh.callMethod hv _ fun _ ha => absurd ha List.not_mem_nil) fun stripped _ => ?_
    refine .bind (.attempt (Reading.keeps_int stripped)) fun r hr => ?_
    cases r with
    | ok n => exact .pure hr
    | error c =>
      refine .ite (.raise_bind hr) (.bind (.attempt (Reading.keeps_float stripped)) fun r hr => ?_)
      cases r with
      | ok x => exact .pure hr
      | error c =>
        refine .ite (.raise_bind hr) (.bind .get fun _ _ => .bind (.ofExcept fun _ _ => trivial) ?_)
        exact fun shown _ =>
          .raise (Fault.wellBuilt_notANumber hv shown (List.forall_mem_singleton.mpr hr))

/-! ### Arguments given in advance -/

/-- What holds of all results of a computation over a list holds of what it gives. -/
theorem forall_mem_of_mapM_ok {α β : Type} {P : β → Prop} {g : α → Except Complaint β} {l : List α}
    {r : List β} (hg : ∀ a ∈ l, ∀ b, g a = .ok b → P b) (hr : l.mapM g = .ok r) : ∀ b ∈ r, P b := by
  induction l generalizing r with
  | nil =>
    cases hr
    exact List.forall_mem_nil P
  | cons a l ih =>
    rw [List.mapM_cons] at hr
    cases ha : g a with
    | error c =>
      rw [ha] at hr
      cases hr
    | ok b =>
      rw [ha] at hr
      cases hl : l.mapM g with
      | error c =>
        simp only [bind, Except.bind, hl] at hr
        cases hr
      | ok bs =>
        simp only [bind, Except.bind, hl] at hr
        cases hr
        exact List.forall_mem_cons.mpr ⟨hg a List.mem_cons_self b ha,
          ih (fun a' ha' => hg a' (List.mem_cons_of_mem a ha')) hl⟩

/-- Merged keywords hold what either held. -/
theorem Keywords.forall_mem_merge {P : Value → Prop} {before now : Keywords}
    (hbefore : ∀ e ∈ before, P e.2) (hnow : ∀ e ∈ now, P e.2) :
    ∀ e ∈ Keywords.merge before now, P e.2 := by
  unfold Keywords.merge
  induction now generalizing before with
  | nil => exact hbefore
  | cons e now ih =>
    rw [List.forall_mem_cons] at hnow
    refine ih ?_ hnow.2
    simp only
    split
    · refine List.forall_mem_map.mpr fun e' he' => ?_
      split
      · exact hnow.1
      · exact hbefore e' he'
    · exact List.forall_mem_append.mpr ⟨hbefore, List.forall_mem_singleton.mpr hnow.1⟩

namespace World.WellBuilt

variable {w : World} (hw : w.WellBuilt)
include hw

theorem presetKeywords {keywords named : Keywords} (hk : ∀ e ∈ keywords, e.2.WellBuilt)
    (hn : w.presetKeywords? v keywords = .ok named) : ∀ e ∈ named, e.2.WellBuilt := by
  unfold World.presetKeywords? at hn
  split at hn
  · refine forall_mem_of_mapM_ok (fun e he b hb => ?_) hn
    obtain ⟨key, value⟩ := e
    simp only at hb
    split at hb
    · obtain rfl := Except.ok.inj hb
      exact (hw.dictEntries he).2
    · cases hb
  · cases hn
    exact hk

/-- A callable with some arguments given is well built if it and they are. -/
theorem preset {args : List Value} {keywords : Keywords} (hf : f.WellBuilt)
    (ha : ∀ a ∈ args, a.WellBuilt) (hk : ∀ e ∈ keywords, e.2.WellBuilt)
    (hv : w.preset f args keywords = .ok v) : v.WellBuilt := by
  unfold World.preset at hv
  split at hv
  · cases hv
  · split at hv
    · next stamp g before named _ =>
      have hparts := (Value.wellBuilt_preset stamp before named).mp hf
      simp only at hv
      split at hv
      · obtain rfl := Except.ok.inj hv
        refine (Value.wellBuilt_preset 0 _ _).mpr ⟨hparts.1,
          List.forall_mem_append.mpr ⟨hparts.2.1, ha⟩, Keywords.forall_mem_merge ?_ hk⟩
        cases hn : w.presetKeywords? (.preset stamp g before named) named with
        | error c => exact hparts.2.2
        | ok named' => exact hw.presetKeywords hparts.2.2 hn
      · cases hv
        exact (Value.wellBuilt_preset 0 _ _).mpr ⟨hf, ha, hk⟩
    · cases hv
      exact (Value.wellBuilt_preset 0 _ _).mpr ⟨hf, ha, hk⟩

end World.WellBuilt

/-! ### Consoles -/

namespace Console

theorem keeps_takeFirst (hh : h.Keeps) {row : Value} (hrow : row.WellBuilt) :
    Eff.Keeps Value.WellBuilt (takeFirst h row) := by
  unfold takeFirst
  split
  · next address =>
    refine .bind .get fun w hw => ?_
    split
    · exact .complain _
    · next item rest heq =>
      have hitems : ∀ v ∈ item :: rest, v.WellBuilt := by
        intro v hv
        rw [← heq] at hv
        exact hw.dequeItems hv
      rw [List.forall_mem_cons] at hitems
      exact .bind (World.keeps_changeDeque address hitems.2) fun _ _ => .pure hitems.1
  · exact hh.callMethod hrow _ (List.forall_mem_nil _)

theorem keeps_readScripted (hh : h.Keeps) (address : Nat) :
    Eff.Keeps Value.WellBuilt (readScripted h address) := by
  refine .bind .get fun w hw => .bind .get fun _ _ => .ite (.complain_bind _) ?_
  refine .bind (Arithmetic.keeps_increase _ _) fun reads hreads => ?_
  refine .bind (World.keeps_modifyConsole address fun c hc => ⟨hc.1, hc.2.1, hreads⟩) fun _ _ => ?_
  exact keeps_takeFirst hh (hw.console address).1

theorem keeps_writeScripted (hh : h.Keeps) (address : Nat) (ht : text.WellBuilt) :
    Eff.Keeps Value.WellBuilt (writeScripted h address text) := by
  refine .bind .get fun w hw => ?_
  have hwritten := (hw.console address).2.1
  split
  · next lines _ =>
    exact .bind (World.keeps_pushItem lines ht) fun _ _ => .pure Value.wellBuilt_none
  · exact .bind (hh.callMethod hwritten _ (List.forall_mem_singleton.mpr ht)) fun _ _ =>
      .pure Value.wellBuilt_none

theorem keeps_readStandard : Eff.Keeps Value.WellBuilt readStandard := by
  refine .bind .get fun w hw => .ite (.complain _) ?_
  exact .bind (.set { hw with }) fun _ _ => .pure (Value.wellBuilt_str _)

theorem keeps_cutEnd (v : Value) (count : Nat) : Eff.Keeps Value.WellBuilt (cutEnd v count) := by
  unfold cutEnd
  split
  · exact .pure (Value.wellBuilt_str _)
  · exact .complain _

theorem keeps_stripTerminator (hh : h.Keeps) {line : Value} (hl : line.WellBuilt) :
    Eff.Keeps Value.WellBuilt (stripTerminator h line) := by
  unfold stripTerminator
  split
  · exact .pure (Value.wellBuilt_str _)
  · have hends (terminator : String) : Eff.Keeps (fun _ => True) (do
        let answer ← h.callMethod line "endswith" [.str terminator]
        return (← get).isTruthy answer) :=
      .bind (hh.callMethod hl _ (List.forall_mem_singleton.mpr (Value.wellBuilt_str _))) fun _ _ =>
        .bind .get fun _ _ => .pure trivial
    refine .bind (hends _) fun _ _ => .ite (keeps_cutEnd _ _) ?_
    refine .bind (hends _) fun _ _ => .ite (keeps_cutEnd _ _) ?_
    exact .bind (hends _) fun _ _ => .ite (keeps_cutEnd _ _) (.pure hl)

theorem keeps_readLineFrom (hh : h.Keeps) {input : Value} (hi : input.WellBuilt) :
    Eff.Keeps Value.WellBuilt (readLineFrom h input) := by
  unfold readLineFrom
  split
  · exact keeps_readStandard
  · refine .bind (hh.callMethod hi _ (List.forall_mem_nil _)) fun line hl => ?_
    split
    · exact .complain _
    · exact keeps_stripTerminator hh hl

theorem keeps_writeLineTo (hh : h.Keeps) {output : Value} (ho : output.WellBuilt) (text : Value) :
    Eff.Keeps Value.WellBuilt (writeLineTo h output text) := by
  unfold writeLineTo
  split
  · refine .bind .get fun w hw => .bind (.ofExcept fun _ _ => trivial) fun shown _ => ?_
    exact .bind (World.keeps_print _) fun _ _ => .pure Value.wellBuilt_none
  · refine .bind (hh.read _ ho) fun write hwrite => .bind .get fun w hw => ?_
    refine .bind (.ofExcept fun _ _ => trivial) fun line _ => ?_
    refine .bind (hh.call hwrite (List.forall_mem_singleton.mpr (Value.wellBuilt_str _))
      (List.forall_mem_nil _)) fun _ _ => ?_
    exact .bind (hh.callMethod ho _ (List.forall_mem_nil _)) fun _ _ => .pure Value.wellBuilt_none

theorem keeps_readStream (hh : h.Keeps) (console : Value) {input : Value} (hi : input.WellBuilt) :
    Eff.Keeps Value.WellBuilt (readStream h console input) := by
  refine .bind .get fun w hw => keeps_readLineFrom hh ?_
  cases hg : w.given? console "_stdin" with
  | none => exact hi
  | some given => exact hw.given hg

theorem keeps_writeStream (hh : h.Keeps) (console text : Value) {output : Value}
    (ho : output.WellBuilt) : Eff.Keeps Value.WellBuilt (writeStream h console output text) := by
  refine .bind .get fun w hw => keeps_writeLineTo hh ?_ text
  cases hg : w.given? console "_stdout" with
  | none => exact ho
  | some given => exact hw.given hg

/-- What writes lines to a console is well built. -/
theorem keeps_writer (hh : h.Keeps) (hc : console.WellBuilt) :
    Eff.Keeps Value.WellBuilt (writer h console) := by
  refine .bind .get fun w hw => ?_
  split
  · next given hg => exact .pure (hw.given hg)
  · next m _ hm =>
    refine .pure ((Value.wellBuilt_method 0 m).mpr ⟨.inr ?_, hc⟩)
    unfold ownWriter? at hm
    split at hm
    · obtain rfl := Option.some.inj hm
      decide
    · obtain rfl := Option.some.inj hm
      decide
    · cases hm
  · exact hh.read _ hc

theorem keeps_printLine (hh : h.Keeps) (hc : console.WellBuilt) (v : Value) :
    Eff.Keeps (fun node => node.isNode = true ∧ node.WellBuilt) (printLine h console v) := by
  refine .bind (keeps_writer hh hc) fun write hwrite => .bind .get fun w hw => ?_
  refine .bind (.ofExcept fun _ _ => trivial) fun shown _ => .bind .get fun w hw => ?_
  have hshown := List.forall_mem_singleton.mpr (Value.wellBuilt_str shown)
  refine .bind (.ofExcept fun writer hw' => hw.preset hwrite hshown (List.forall_mem_nil _) hw') ?_
  exact fun writer hwriter => .ofExcept fun node hn =>
    (Graph.Call.printLine (h := h) hn).wellBuilt (List.forall_mem_singleton.mpr hwriter)

end Console
/-! ### Sample programs -/

namespace Sample

theorem keeps_printCelsius (hh : h.Keeps) (hc : console.WellBuilt) (hv : v.WellBuilt) :
    Eff.Keeps Value.WellBuilt (printCelsius h console v) := by
  refine .bind (.ofExcept fun _ _ => trivial) fun shown _ => ?_
  refine .bind (Console.keeps_printLine hh hc _) fun node hn => .pure ?_
  exact ((Graph.Call.replace (h := h) hn.1 v).wellBuilt
    (List.forall_mem_cons.mpr ⟨hn.2, List.forall_mem_singleton.mpr hv⟩)).2

theorem keeps_multiplyUp (hh : h.Keeps) (n : Value) {accumulator : Value}
    (ha : accumulator.WellBuilt) : Eff.Keeps Value.WellBuilt (multiplyUp h n accumulator) := by
  refine .bind (.ofExcept fun _ _ => trivial) fun stop _ => ?_
  have hloop := (Graph.Call.foreach (h := h) (.range 0 1 stop) (.scale accumulator)).wellBuilt
    (List.forall_mem_cons.mpr ⟨Value.wellBuilt_range 0 1 stop, List.forall_mem_singleton.mpr ha⟩)
  have hthen (last : Value) (hl : last.WellBuilt) : Eff.Keeps Value.WellBuilt (Eff.ofExcept
      (Graph.thenRun (Graph.foreach (.range 0 1 stop) (.scale accumulator)) last)) :=
    .ofExcept fun node hn => ((Graph.Call.thenRun (h := h) hloop.1 hn).wellBuilt
      (List.forall_mem_cons.mpr ⟨hloop.2, List.forall_mem_singleton.mpr hl⟩)).2
  cases accumulator with
  | cell address =>
    refine .bind (World.keeps_cellName address) fun name _ => .bind (.pure ?_) hthen
    exact ((Graph.Call.getCell (h := h) address name).wellBuilt (List.forall_mem_nil _)).2
  | _ => exact .bind (hh.callMethod ha _ (List.forall_mem_nil _)) hthen

end Sample

/-! ### Callbacks -/

theorem Value.keeps_skipped (hh : h.Keeps) (hv : v.WellBuilt) :
    Eff.Keeps WellBuilt (v.skipped h) := by
  cases hn : v.isNode with
  | true =>
    rw [Graph.skipped_of_wellBuilt hn hv]
    exact .pure (Graph.wellBuilt_skip hn hv).2
  | false =>
    cases v with
    | node i n => cases hn
    | _ => exact hh.callMethod hv _ (List.forall_mem_nil _)

theorem Mapper.keeps_run (hh : h.Keeps) {element : Value} (he : element.WellBuilt)
    {mapper : Mapper Value} (hm : ∀ p ∈ mapper.parts, p.WellBuilt) :
    Eff.Keeps Value.WellBuilt (mapper.run h element) := by
  cases mapper with
  | apply f =>
    exact hh.call (hm f List.mem_cons_self) (List.forall_mem_singleton.mpr he) (List.forall_mem_nil _)
  | same => exact .pure he
  | scale cell =>
    have hcell := hm cell List.mem_cons_self
    have hupdate : ∀ p ∈ (Update.multiply element).parts, p.WellBuilt :=
      List.forall_mem_singleton.mpr he
    cases cell with
    | cell address =>
      exact .bind (World.keeps_cellName address) fun name _ =>
        .pure (Graph.wellBuilt_action (c := .updateCell address (.multiply element)) rfl
          hupdate).2
    | _ =>
      have htimes : (Value.ofCallback (.times element)).WellBuilt :=
        (Value.wellBuilt_callback 0 _).mpr ⟨List.forall_mem_nil _, hupdate⟩
      exact hh.callMethod hcell _ (List.forall_mem_singleton.mpr htimes)

theorem Combiner.keeps_run (hh : h.Keeps) {first second : Value} (hf : first.WellBuilt)
    (hs : second.WellBuilt) {combiner : Combiner Value} (hc : ∀ p ∈ combiner.parts, p.WellBuilt) :
    Eff.Keeps Value.WellBuilt (combiner.run h first second) := by
  have hboth : ∀ v ∈ [first, second], v.WellBuilt :=
    List.forall_mem_cons.mpr ⟨hf, List.forall_mem_singleton.mpr hs⟩
  cases combiner with
  | apply f => exact hh.call (hc f List.mem_cons_self) hboth (List.forall_mem_nil _)
  | pair => exact .pure ((Value.wellBuilt_tuple 0 _).mpr hboth)

theorem Update.keeps_run (hh : h.Keeps) {content : Value} (hv : content.WellBuilt)
    {update : Update Value} (hu : ∀ p ∈ update.parts, p.WellBuilt) :
    Eff.Keeps Value.WellBuilt (update.run h content) := by
  cases update with
  | apply f =>
    exact hh.call (hu f List.mem_cons_self) (List.forall_mem_singleton.mpr hv) (List.forall_mem_nil _)
  | multiply factor => exact Arithmetic.keeps_multiply hv (hu factor List.mem_cons_self)

/-- The step of a fold may give anything well built; that it is a node is nowhere seen to. -/
theorem FoldStep.keeps_run (hh : h.Keeps) {accumulator element : Value}
    (ha : accumulator.WellBuilt) (he : element.WellBuilt) {step : FoldStep Value}
    (hs : ∀ p ∈ step.parts, p.WellBuilt) :
    Eff.Keeps Value.WellBuilt (step.run h accumulator element) := by
  cases step with
  | apply f =>
    exact hh.call (hs f List.mem_cons_self)
      (List.forall_mem_cons.mpr ⟨ha, List.forall_mem_singleton.mpr he⟩) (List.forall_mem_nil _)
  | discard mapper =>
    exact .bind (Mapper.keeps_run hh he hs) fun node hn => Value.keeps_skipped hh hn
  | collect results mapper =>
    refine .bind (Mapper.keeps_run hh he hs) fun node hn => .pure ?_
    exact Value.wellBuilt_sequenced.mpr ⟨.inr rfl, hn, List.forall_mem_nil _, List.forall_mem_nil _⟩
  | again node => exact Value.keeps_skipped hh (hs node List.mem_cons_self)

theorem keeps_foldRound (hh : h.Keeps) {iterator accumulator : Value} (hi : iterator.WellBuilt)
    {step : FoldStep Value} (hs : ∀ p ∈ step.parts, p.WellBuilt) (ha : accumulator.WellBuilt) :
    Eff.Keeps Value.WellBuilt (foldRound h iterator step accumulator) := by
  refine .bind (hh.pull hi) fun r hr => ?_
  cases r with
  | none => exact .pure ((Value.wellBuilt_done 0).mpr ha)
  | some element =>
    refine .bind (FoldStep.keeps_run hh ha (hr element rfl) hs) fun node hn => .pure ?_
    exact Value.wellBuilt_sequenced.mpr
      ⟨.inr rfl, hn, List.forall_mem_nil _, List.forall_mem_cons.mpr ⟨hi, hs⟩⟩

theorem keeps_replicateRound (results : Nat) (count : Int) {node : Value} (hn : node.isNode = true)
    (hw : node.WellBuilt) : Eff.Keeps Value.WellBuilt (replicateRound results count node) := by
  refine .bind (World.keeps_listSize results) fun size _ => .ite (.pure ?_) (.pure ?_)
  · exact (Value.wellBuilt_done 0).mpr (Value.wellBuilt_list results)
  · exact Value.wellBuilt_sequenced.mpr ⟨.inl hn, hw, List.forall_mem_singleton.mpr hn,
      List.forall_mem_singleton.mpr hw⟩

/-- What a generator yields is looked at. -/
theorem keeps_resumeGenerator (hh : h.Keeps) {generator sent : Value} (hg : generator.WellBuilt)
    (hs : sent.WellBuilt) : Eff.Keeps Value.WellBuilt (resumeGenerator h generator sent) := by
  refine .bind (hh.send hg hs) fun r hr => ?_
  cases r with
  | returned v => exact .pure ((Value.wellBuilt_done 0).mpr hr)
  | yielded v =>
    cases hv : v.isNode with
    | true =>
      simp only [hv]
      exact .pure (Value.wellBuilt_sequenced.mpr
        ⟨.inl hv, hr, List.forall_mem_nil _, List.forall_mem_singleton.mpr hg⟩)
    | false =>
      simp only [hv]
      exact .bind (hh.close hg) fun _ _ => .complain _

theorem keeps_startProduced (hh : h.Keeps) (hv : v.WellBuilt) :
    Eff.Keeps Value.WellBuilt (startProduced h v) := by
  cases v with
  | generator address => exact keeps_resumeGenerator hh hv Value.wellBuilt_none
  | node i n => exact .pure hv
  | _ => exact .pure ((Value.wellBuilt_done 0).mpr hv)

theorem Factory.keeps_build (hh : h.Keeps) {factory : Factory Value}
    (hs : ∀ s ∈ factory.sources, s.isNode = true) (hp : ∀ p ∈ factory.parts, p.WellBuilt) :
    Eff.Keeps Value.WellBuilt (factory.build h) := by
  cases factory with
  | apply f =>
    exact hh.call (hp f List.mem_cons_self) (List.forall_mem_nil _) (List.forall_mem_nil _)
  | fold elements initial step =>
    obtain ⟨he, hp⟩ := List.forall_mem_cons.mp hp
    obtain ⟨hi, hstep⟩ := List.forall_mem_cons.mp hp
    exact .bind (hh.openIterator he) fun iterator hit => keeps_foldRound hh hit hstep hi
  | traverse items mapper =>
    obtain ⟨hi, hm⟩ := List.forall_mem_cons.mp hp
    refine .bind World.keeps_newListAddress fun results _ => .pure ?_
    have hcollect : ∀ p ∈ (FoldStep.collect results mapper).parts, p.WellBuilt := hm
    have hfold := Graph.wellBuilt_foldWith hi Value.wellBuilt_none hcollect
    exact Value.wellBuilt_sequenced.mpr
      ⟨.inl hfold.1, hfold.2, List.forall_mem_nil _, List.forall_mem_nil _⟩
  | replicate count node =>
    refine .bind World.keeps_newListAddress fun results _ => ?_
    exact keeps_replicateRound results count (hs node List.mem_cons_self) (hp node List.mem_cons_self)
  | doWhile body condition =>
    exact .pure (Value.wellBuilt_sequenced.mpr
      ⟨.inl (hs body List.mem_cons_self), hp body List.mem_cons_self, hs, hp⟩)
  | whileLoop condition body =>
    exact .pure (Value.wellBuilt_sequenced.mpr
      ⟨.inl (hs condition List.mem_cons_self), hp condition List.mem_cons_self, hs, hp⟩)
  | forever node =>
    exact .pure (Value.wellBuilt_sequenced.mpr
      ⟨.inl (hs node List.mem_cons_self), hp node List.mem_cons_self, hs, hp⟩)
  | generate f args keywords =>
    obtain ⟨hf, hp⟩ := List.forall_mem_cons.mp hp
    obtain ⟨ha, hk⟩ := List.forall_mem_append.mp hp
    exact .bind (hh.call hf ha (List.forall_mem_map.mp hk)) fun produced hv =>
      keeps_startProduced hh hv

/-- **Every callback keeps values well built.** -/
theorem Callback.keeps_run (hh : h.Keeps) {c : Callback Value}
    (hs : ∀ s ∈ c.sources, s.isNode = true) (hp : ∀ p ∈ c.parts, p.WellBuilt) {args : List Value}
    (ha : ∀ a ∈ args, a.WellBuilt) : Eff.Keeps Value.WellBuilt (c.run h args) := by
  have hunit : Value.unit.WellBuilt := (Value.wellBuilt_done 1).mpr Value.wellBuilt_none
  unfold run
  split
  · next f v =>
    exact .bind (hh.call (hp f List.mem_cons_self) ha (List.forall_mem_nil _)) fun r hr =>
      .pure ((Value.wellBuilt_done 0).mpr hr)
  · next other _ => exact .pure (hp other List.mem_cons_self)
  · exact .pure hunit
  · next value _ => exact .pure ((Value.wellBuilt_done 0).mpr (hp value List.mem_cons_self))
  · next v =>
    exact .pure ((Value.wellBuilt_done 0).mpr ((Value.wellBuilt_ok 0).mpr (ha v List.mem_cons_self)))
  · next e =>
    exact .pure ((Value.wellBuilt_done 0).mpr ((Value.wellBuilt_err 0).mpr (ha e List.mem_cons_self)))
  · next second a =>
    exact .pure (Value.wellBuilt_sequenced.mpr ⟨.inl (hs second List.mem_cons_self),
      hp second List.mem_cons_self, List.forall_mem_nil _, ha⟩)
  · next a b =>
    refine .pure ((Value.wellBuilt_done 0).mpr ((Value.wellBuilt_tuple 0 _).mpr ?_))
    exact List.forall_mem_cons.mpr ⟨hp a List.mem_cons_self, ha⟩
  · exact Factory.keeps_build hh hs hp
  · next second combiner a =>
    obtain ⟨hsecond, hcombiner⟩ := List.forall_mem_cons.mp hp
    exact .pure (Value.wellBuilt_sequenced.mpr ⟨.inl (hs second List.mem_cons_self), hsecond,
      List.forall_mem_nil _, List.forall_mem_cons.mpr ⟨ha a List.mem_cons_self, hcombiner⟩⟩)
  · next a combiner b =>
    obtain ⟨hfirst, hcombiner⟩ := List.forall_mem_cons.mp hp
    exact .bind (Combiner.keeps_run hh hfirst (ha b List.mem_cons_self) hcombiner) fun r hr =>
      .pure ((Value.wellBuilt_done 0).mpr hr)
  · next iterator step accumulator =>
    obtain ⟨hi, hstep⟩ := List.forall_mem_cons.mp hp
    exact keeps_foldRound hh hi hstep (ha accumulator List.mem_cons_self)
  · next results v =>
    exact .bind (World.keeps_pushItem results (ha v List.mem_cons_self)) fun _ _ => .pure hunit
  · next results _ =>
    exact .pure ((Value.wellBuilt_done 0).mpr (Value.wellBuilt_list results))
  · next results count node v =>
    refine .bind (World.keeps_pushItem results (ha v List.mem_cons_self)) fun _ _ => ?_
    exact keeps_replicateRound results count (hs node List.mem_cons_self) (hp node List.mem_cons_self)
  · next body condition v =>
    -- the answer of the condition becomes the source of a sequence as it is
    refine .bind (hh.call (hp condition (List.mem_cons_of_mem _ List.mem_cons_self)) ha
      (List.forall_mem_nil _)) fun r hr => .pure ?_
    exact Value.wellBuilt_sequenced.mpr ⟨.inr rfl, hr, hs, hp⟩
  · next body condition again =>
    refine .bind .get fun w _ => .pure ?_
    split
    · exact Value.wellBuilt_sequenced.mpr
        ⟨.inl (hs body List.mem_cons_self), hp body List.mem_cons_self, hs, hp⟩
    · exact hunit
  · next condition body again =>
    have hbody := List.mem_cons_of_mem condition (List.mem_singleton_self body)
    refine .bind .get fun w _ => .pure ?_
    split
    · exact Value.wellBuilt_sequenced.mpr ⟨.inl (hs body hbody), hp body hbody, hs, hp⟩
    · exact hunit
  · next condition body _ =>
    exact .pure (Value.wellBuilt_sequenced.mpr
      ⟨.inl (hs condition List.mem_cons_self), hp condition List.mem_cons_self, hs, hp⟩)
  · next node _ =>
    exact .pure (Value.wellBuilt_sequenced.mpr
      ⟨.inl (hs node List.mem_cons_self), hp node List.mem_cons_self, hs, hp⟩)
  · next generator sent =>
    exact keeps_resumeGenerator hh (hp generator List.mem_cons_self) (ha sent List.mem_cons_self)
  · next n accumulator => exact Sample.keeps_multiplyUp hh n (ha accumulator List.mem_cons_self)
  · next console celsius =>
    exact Sample.keeps_printCelsius hh (hp console List.mem_cons_self) (ha celsius List.mem_cons_self)
  · next fault => exact .raise ((Value.wellBuilt_fault fault).mp (hp _ List.mem_cons_self))
  · next address value =>
    exact .bind (World.keeps_writeCell address (hp value List.mem_cons_self)) fun _ _ =>
      .pure Value.wellBuilt_none
  · next address update =>
    refine .bind (World.keeps_readCell address) fun content hv => ?_
    refine .bind (Update.keeps_run hh hv hp) fun content hv => ?_
    exact .bind (World.keeps_writeCell address hv) fun _ _ => .pure hv
  · next initial => exact World.keeps_newCell (hp initial List.mem_cons_self)
  · next text => exact Value.keeps_parseNumber hh (ha text List.mem_cons_self)
  · next factor v =>
    exact Arithmetic.keeps_multiply (ha v List.mem_cons_self) (hp factor List.mem_cons_self)
  · exact World.keeps_newGenerator hp
  · exact .complain _

theorem Method.keeps_run? (hh : h.Keeps) {m : Method} (hv : v.WellBuilt) {args : List Value}
    (ha : ∀ a ∈ args, a.WellBuilt) {action : Eff Value} (hm : m.run? h v args = some action) :
    Eff.Keeps Value.WellBuilt action := by
  unfold run? at hm
  split at hm
  · obtain rfl := Option.some.inj hm
    exact World.keeps_readCell _
  · obtain rfl := Option.some.inj hm
    exact Console.keeps_readScripted hh _
  · obtain rfl := Option.some.inj hm
    exact Console.keeps_writeScripted hh _ (ha _ List.mem_cons_self)
  · obtain rfl := Option.some.inj hm
    exact Console.keeps_readStream hh _ ((Value.wellBuilt_stream _).mp hv).1
  · obtain rfl := Option.some.inj hm
    exact Console.keeps_writeStream hh _ _ ((Value.wellBuilt_stream _).mp hv).2
  · cases hm

/-- **Whatever is invoked keeps values well built,** over a host that does. -/
theorem Host.Keeps.invoke (hh : h.Keeps) (hf : f.WellBuilt) {args : List Value}
    (ha : ∀ a ∈ args, a.WellBuilt) : Eff.Keeps Value.WellBuilt (h.invoke f args) := by
  induction hf generalizing args with
  | @intro f hfits hparts ih =>
    have hf : f.WellBuilt := .intro hfits hparts
    have hcall : Eff.Keeps Value.WellBuilt (h.call f args []) :=
      hh.call hf ha (List.forall_mem_nil _)
    unfold Host.invoke
    split
    · next stamp c =>
      have hc := (Value.wellBuilt_callback stamp c).mp hf
      exact Callback.keeps_run hh hc.1 hc.2 ha
    · next stamp receiver m =>
      have hr := ((Value.wellBuilt_method stamp m).mp hf).2
      split
      · next action hm => exact Method.keeps_run? hh hr ha hm
      · exact hcall
    · next stamp target before =>
      have hpreset := (Value.wellBuilt_preset stamp before []).mp hf
      refine .bind .get fun w _ => .ite hcall ?_
      exact ih target List.mem_cons_self (List.forall_mem_append.mpr ⟨hpreset.2.1, ha⟩)
    · exact hcall

end EffectGraph
