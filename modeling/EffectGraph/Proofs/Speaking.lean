import EffectGraph.Proofs.Sharing
import EffectGraph.Proofs.WellBuilt

/-!
# What has a text

The text of a value tells of other values: of its parts, of what it refers to, and of attributes that
scripts have given to it or to a callable that it names (`World.Mentions`).  Only a few of them have
nothing to be told by, a whole number with too many digits, a console whose lines cannot be counted, and
a program made of something that has no name (`World.Sayable`).  They are all that can keep a value from
having a text: if the text tells of none of them, there is one (`World.Tellable.exists_repr?`).

The proof is about data of which every text can be written (`Datum.Speaks`).  What is spelled out at a
value speaks if its parts do and what it refers to does (`World.voiced_of_toldParts`), and what is spelled
out of a reference does if its contents do (`World.speaks_spellReference`).
-/

namespace EffectGraph

open Relation

/-- What depends on an answer can be answered if there is one and the rest can. -/
theorem exists_bind_ok {ε α β : Type} {x : Except ε α} {f : α → Except ε β} (hx : ∃ a, x = .ok a)
    (hf : ∀ a, ∃ b, f a = .ok b) : ∃ b, (x >>= f) = .ok b := by
  obtain ⟨a, rfl⟩ := hx
  exact hf a

/-! ### Data that speak -/

namespace Datum

/-- **Every text can be written,** of a datum and of what is in it. -/
inductive Speaks : Datum → Prop where
  | none : Speaks none
  | bool (b : Bool) : Speaks (bool b)
  | int {i : Int} (hi : writable i = true) : Speaks (int i)
  | float (x : Float) : Speaks (float x)
  | str (s : String) : Speaks (str s)
  | tuple {items : List Datum} (hitems : ∀ d ∈ items, Speaks d) : Speaks (tuple items)
  | list {items : List Datum} (hitems : ∀ d ∈ items, Speaks d) : Speaks (list items)
  | again (container : Container) : Speaks (again container)
  | dict {entries : List (Datum × Datum)} (hkeys : ∀ e ∈ entries, Speaks e.1)
      (hvalues : ∀ e ∈ entries, Speaks e.2) : Speaks (dict entries)
  | frozenDict {entries : List (Datum × Datum)} (hkeys : ∀ e ∈ entries, Speaks e.1)
      (hvalues : ∀ e ∈ entries, Speaks e.2) : Speaks (frozenDict entries)
  | range {a b : Int} (ha : writable a = true) (hb : writable b = true) : Speaks (range a b)
  | ok {v : Datum} (hv : Speaks v) : Speaks (ok v)
  | err {e : Datum} (he : Speaks e) : Speaks (err e)
  | fault {kind : FaultKind} {args : Datum} {details : List Datum} {message : Except Complaint String}
      (hargs : Speaks args) (hmessage : ∃ text, message = .ok text) :
      Speaks (fault kind args details message)
  | stats {fields : List Datum} {elapsed : Datum} {refusal : Option Complaint}
      (hfields : ∀ d ∈ fields, Speaks d) : Speaks (stats fields elapsed refusal)
  | runState {current stack stats : Datum} (hcurrent : Speaks current) (hstack : Speaks stack)
      (hstats : Speaks stats) : Speaks (runState current stack stats)
  | runResult {result stats failure : Datum} (hresult : Speaks result) (hstats : Speaks stats)
      (hfailure : Speaks failure) : Speaks (runResult result stats failure)
  | object {v : Value} {text : Except Complaint String} (htext : ∃ t, text = .ok t) :
      Speaks (object v text)

section texts

variable {d : Datum} {items : List Datum} {entries : List (Datum × Datum)} {kind : FaultKind}

theorem exists_intText? {i : Int} (hi : writable i = true) : ∃ text, intText? i = .ok text :=
  ⟨_, if_pos hi⟩

theorem exists_reprAll? (hitems : ∀ d ∈ items, ∃ text, d.repr? = .ok text) :
    ∃ texts, reprAll? items = .ok texts := by
  induction items with
  | nil => exact ⟨[], rfl⟩
  | cons d rest ih =>
    obtain ⟨hd, hrest⟩ := List.forall_mem_cons.1 hitems
    rw [reprAll?]
    exact exists_bind_ok hd fun _ => exists_bind_ok (ih hrest) fun _ => ⟨_, rfl⟩

theorem exists_reprEntries? (hkeys : ∀ e ∈ entries, ∃ text, e.1.repr? = .ok text)
    (hvalues : ∀ e ∈ entries, ∃ text, e.2.repr? = .ok text) :
    ∃ texts, reprEntries? entries = .ok texts := by
  induction entries with
  | nil => exact ⟨[], rfl⟩
  | cons e rest ih =>
    obtain ⟨hkey, hkeys⟩ := List.forall_mem_cons.1 hkeys
    obtain ⟨hvalue, hvalues⟩ := List.forall_mem_cons.1 hvalues
    rw [reprEntries?]
    exact exists_bind_ok hkey fun _ => exists_bind_ok hvalue fun _ =>
      exists_bind_ok (ih hkeys hvalues) fun _ => ⟨_, rfl⟩

/-- **The text that shows a datum that speaks can be written.**  A fault shows its arguments, a lone one
without the comma of a tuple. -/
theorem Speaks.exists_repr? (hd : d.Speaks) : ∃ text, d.repr? = .ok text := by
  induction hd with
  | none | bool | float | str | again => exact ⟨_, rfl⟩
  | int hi => exact exists_intText? hi
  | tuple _ ih | list _ ih | stats _ ih =>
    rw [repr?]
    exact exists_bind_ok (exists_reprAll? ih) fun _ => ⟨_, rfl⟩
  | dict _ _ hkeys hvalues | frozenDict _ _ hkeys hvalues =>
    rw [repr?]
    exact exists_bind_ok (exists_reprEntries? hkeys hvalues) fun _ => ⟨_, rfl⟩
  | range ha hb =>
    rw [repr?]
    exact exists_bind_ok (exists_intText? ha) fun _ => exists_bind_ok (exists_intText? hb) fun _ =>
      ⟨_, rfl⟩
  | ok _ ih | err _ ih =>
    rw [repr?]
    exact exists_bind_ok ih fun _ => ⟨_, rfl⟩
  | fault _ _ ih =>
    unfold repr?
    split
    · obtain ⟨text, htext⟩ := ih
      rw [repr?, reprAll?] at htext
      obtain ⟨texts, htexts, -⟩ := exists_of_bind_ok htext
      obtain ⟨t, ht, -⟩ := exists_of_bind_ok htexts
      exact exists_bind_ok ⟨t, ht⟩ fun _ => ⟨_, rfl⟩
    · exact exists_bind_ok ih fun _ => ⟨_, rfl⟩
  | runState _ _ _ h₁ h₂ h₃ | runResult _ _ _ h₁ h₂ h₃ =>
    rw [repr?]
    exact exists_bind_ok h₁ fun _ => exists_bind_ok h₂ fun _ => exists_bind_ok h₃ fun _ => ⟨_, rfl⟩
  | object htext => exact htext

/-- And so can the text that is printed for it. -/
theorem Speaks.exists_str? (hd : d.Speaks) : ∃ text, d.str? = .ok text := by
  have hrepr := hd.exists_repr?
  cases hd with
  | str s => exact ⟨s, rfl⟩
  | fault _ hmessage => exact hmessage
  | _ => exact hrepr

theorem exists_reprAll?_of_speaks (hitems : ∀ d ∈ items, d.Speaks) :
    ∃ texts, reprAll? items = .ok texts := exists_reprAll? fun d hd => (hitems d hd).exists_repr?

/-- The entries of a dictionary that speaks can be written as arguments. -/
theorem Speaks.exists_keywordTexts? (hd : d.Speaks) : ∃ texts, d.keywordTexts? = .ok texts := by
  cases hd with
  | @dict entries hkeys hvalues =>
    rw [keywordTexts?]
    induction entries with
    | nil => exact ⟨[], rfl⟩
    | cons e rest ih =>
      obtain ⟨hkey, hkeys⟩ := List.forall_mem_cons.1 hkeys
      obtain ⟨hvalue, hvalues⟩ := List.forall_mem_cons.1 hvalues
      rw [List.mapM_cons]
      refine exists_bind_ok ?_ fun _ => exists_bind_ok (ih hkeys hvalues) fun _ => ⟨_, rfl⟩
      exact exists_bind_ok hkey.exists_str? fun _ => exists_bind_ok hvalue.exists_repr? fun _ => ⟨_, rfl⟩
  | _ => exact ⟨[], rfl⟩

/-- The message of a fault can be written if its arguments speak. -/
theorem Speaks.exists_message? (hd : d.Speaks) (kind : FaultKind) :
    ∃ text, message? kind d = .ok text := by
  unfold message?
  split
  · exact ⟨"", rfl⟩
  · next arg =>
    cases hd with
    | tuple hitems =>
      have harg : arg.Speaks := hitems arg List.mem_cons_self
      split
      · exact harg.exists_repr?
      · exact harg.exists_str?
  · exact hd.exists_repr?

theorem exists_systemMessage? {number text : Datum} (hnumber : number.Speaks) (htext : text.Speaks)
    (hfiles : ∀ d ∈ items, d.Speaks) : ∃ message, systemMessage? number text items = .ok message := by
  unfold systemMessage?
  refine exists_bind_ok hnumber.exists_str? fun _ => exists_bind_ok htext.exists_str? fun _ => ?_
  refine exists_bind_ok (exists_reprAll?_of_speaks hfiles) fun names => ?_
  cases names <;> exact ⟨_, rfl⟩

end texts
end Datum

/-! ### What a text tells of -/

theorem forall_mem_entryParts {P : Value → Prop} {entries : List (Value × Value)} :
    (∀ v ∈ entryParts entries, P v) ↔ (∀ e ∈ entries, P e.1) ∧ ∀ e ∈ entries, P e.2 := by
  simp only [entryParts, List.forall_mem_flatMap, Value.forall_mem_pair]
  exact forall₂_and

/-- What the message of a fault tells of besides its arguments. -/
def FaultDetail.told {α : Type} : FaultDetail α → List α
  | .system number text files => number :: text :: files
  | _ => []

/-- **The parts of a value that its text tells of.** -/
def Value.toldParts : Value → List Value
  | .tuple _ items => items
  | .frozenDict _ entries => entryParts entries
  | .ok _ v => [v]
  | .err _ e => [e]
  | .fault f => f.args ++ f.detail.told
  | .runResult _ r s f => [r, s, f]
  | .node _ (.done v) => [v]
  | .node _ (.delay _ label) => [label]
  | .frame _ (.continuation f) => [f]
  | .frame _ (.boundary handler) => [handler]
  | .interpreter _ limit trace => [limit, trace]
  | .preset _ target args keywords => target :: (args ++ keywords.map Prod.snd)
  | .method _ receiver m => if m.isBuiltin then [] else [receiver]
  | .view _ _ (.frozenDict _ entries) => entryParts entries
  | _ => []

theorem sizeOf_lt_of_mem_entryParts {v : Value} {entries : List (Value × Value)}
    (hv : v ∈ entryParts entries) : sizeOf v < sizeOf entries := by
  obtain ⟨e, he, hv⟩ := List.mem_flatMap.1 hv
  have hentry : sizeOf e < sizeOf entries := List.sizeOf_lt_of_mem he
  have hpair : sizeOf e = 1 + sizeOf e.1 + sizeOf e.2 := by
    cases e
    rfl
  rcases List.mem_pair.1 hv with rfl | rfl <;> omega

theorem FaultDetail.sizeOf_lt_of_mem_told {v : Value} {detail : FaultDetail Value}
    (hv : v ∈ detail.told) : sizeOf v < sizeOf detail := by
  cases detail with
  | system number text files =>
    have hsize : sizeOf (FaultDetail.system number text files) =
      1 + sizeOf number + sizeOf text + sizeOf files := rfl
    rcases List.mem_cons.1 hv with rfl | hv
    · omega
    rcases List.mem_cons.1 hv with rfl | hv
    · omega
    · have hfile : sizeOf v < sizeOf files := List.sizeOf_lt_of_mem hv
      omega
  | _ => exact absurd hv List.not_mem_nil

/-- Parts are smaller. -/
theorem Value.sizeOf_lt_of_mem_toldParts {v u : Value} (hu : u ∈ v.toldParts) : sizeOf u < sizeOf v := by
  cases v with
  | tuple stamp items =>
    have hitem : sizeOf u < sizeOf items := List.sizeOf_lt_of_mem hu
    simp only [Value.tuple.sizeOf_spec]
    omega
  | frozenDict stamp entries =>
    have hentry : sizeOf u < sizeOf entries := sizeOf_lt_of_mem_entryParts hu
    simp only [Value.frozenDict.sizeOf_spec]
    omega
  | fault f =>
    obtain ⟨kind, args, detail, stamp⟩ := f
    simp only [Value.fault.sizeOf_spec, Fault.mk.sizeOf_spec]
    rcases List.mem_append.1 hu with hu | hu
    · have harg : sizeOf u < sizeOf args := List.sizeOf_lt_of_mem hu
      omega
    · have hdetail : sizeOf u < sizeOf detail := FaultDetail.sizeOf_lt_of_mem_told hu
      omega
  | preset stamp target args keywords =>
    simp only [Value.preset.sizeOf_spec]
    rcases List.mem_cons.1 hu with rfl | hu
    · omega
    rcases List.mem_append.1 hu with hu | hu
    · have harg : sizeOf u < sizeOf args := List.sizeOf_lt_of_mem hu
      omega
    · obtain ⟨⟨name, v⟩, he, rfl⟩ := List.mem_map.1 hu
      have hentry : sizeOf (name, v) < sizeOf keywords := List.sizeOf_lt_of_mem he
      simp only [Prod.mk.sizeOf_spec] at hentry ⊢
      omega
  | method stamp receiver m =>
    simp only [Value.method.sizeOf_spec]
    rw [toldParts] at hu
    split at hu
    · exact absurd hu List.not_mem_nil
    · obtain rfl := List.mem_singleton.1 hu
      omega
  | view stamp kind source =>
    simp only [Value.view.sizeOf_spec]
    cases source with
    | frozenDict stamp entries =>
      have hentry : sizeOf u < sizeOf entries := sizeOf_lt_of_mem_entryParts hu
      simp only [Value.frozenDict.sizeOf_spec]
      omega
    | _ => exact absurd hu List.not_mem_nil
  | node stamp n =>
    cases n with
    | done | delay =>
      obtain rfl := List.mem_singleton.1 hu
      simp only [Value.node.sizeOf_spec, Node.done.sizeOf_spec, Node.delay.sizeOf_spec]
      omega
    | _ => exact absurd hu List.not_mem_nil
  | frame stamp f =>
    cases f with
    | continuation | boundary =>
      obtain rfl := List.mem_singleton.1 hu
      simp only [Value.frame.sizeOf_spec, Frame.continuation.sizeOf_spec, Frame.boundary.sizeOf_spec]
      omega
  | ok | err =>
    obtain rfl := List.mem_singleton.1 hu
    simp only [Value.ok.sizeOf_spec, Value.err.sizeOf_spec]
    omega
  | runResult =>
    simp only [Value.runResult.sizeOf_spec]
    rcases List.mem_cons.1 hu with rfl | hu
    · omega
    · rcases List.mem_pair.1 hu with rfl | rfl <;> omega
  | interpreter =>
    simp only [Value.interpreter.sizeOf_spec]
    rcases List.mem_pair.1 hu with rfl | rfl <;> omega
  | _ => exact absurd hu List.not_mem_nil

namespace World

/-- The attributes that the text of a value looks up, and in which object. -/
def attributesRead (w : World) : Value → List (Value × String)
  | .fault f => ["args", "errno", "strerror", "filename", "filename2"].map (Prod.mk (.fault f))
  | .interpreter stamp limit trace =>
    ["_max_stack_depth", "_trace_steps"].map (Prod.mk (.interpreter stamp limit trace))
  | .cell address => [(.cell address, "ref_id")]
  | .closure c => [(.closure c, "__qualname__")]
  | .program stamp target => [(w.wrappedBy (.program stamp target) target, "__qualname__")]
  | .node _ (.delay thunk _) => [(thunk, "__qualname__")]
  | .node _ (.flatMap _ f) => [(f, "__qualname__")]
  | .node _ (.recover _ handler) => [(handler, "__qualname__")]
  | _ => []

/-- What a value refers to where its text is made. -/
inductive Refers (w : World) : Value → Reference → Prop where
  | list {address : Nat} : Refers w (.list address) (.list address)
  | dict {address : Nat} : Refers w (.dict address) (.dict address)
  | stats {address : Nat} : Refers w (.stats address) (.stats address)
  | runState {address : Nat} : Refers w (.runState address) (.runState address)
  | deque {address : Nat} : Refers w (.deque address) (.deque address)
  | view {stamp address : Nat} {kind : View} :
      Refers w (.view stamp kind (.dict address)) (.entries address kind)
  | attribute {v u : Value} {name : String} {i : Identity} (hlooked : (u, name) ∈ w.attributesRead v)
      (hi : u.identity? = some i) : Refers w v (.given i name)
  | keywords {stamp address : Nat} {target : Value} {args : List Value}
      {keywords : List (String × Value)}
      (hgiven : w.given? (.preset stamp target args keywords) "keywords" = some (.dict address)) :
      Refers w (.preset stamp target args keywords) (.dict address)

/-- What there is where a reference leads. -/
def contents (w : World) : Reference → List Value
  | .list address => (w.listItems address).toList
  | .dict address => entryParts (w.dictEntries address)
  | .stats address => (w.statsAt address).toList
  | .runState address =>
    [(w.runStateAt address).current, (w.runStateAt address).stack, (w.runStateAt address).stats]
  | .deque address => (w.dequeAt address).items
  | .entries address _ => entryParts (w.dictEntries address)
  | .given owner name =>
    match w.attributes.lookup (owner, name) with
    | some (.tuple _ [v]) => [v]
    | some v => [v]
    | none => []

/-- **The text of a value tells of another one,** as a part of it or where it refers to. -/
inductive Mentions (w : World) : Value → Value → Prop where
  | part {v u : Value} (hu : u ∈ v.toldParts) : Mentions w v u
  | content {v u : Value} {r : Reference} (hr : w.Refers v r) (hu : u ∈ w.contents r) : Mentions w v u

/-- **Nothing of its own keeps a value from having a text:** it is no number with too many digits, no
console whose lines cannot be counted, and no program made of something that has no name. -/
def Sayable (w : World) : Value → Prop
  | .int i => Datum.writable i = true
  | .range _ a b => Datum.writable a = true ∧ Datum.writable b = true
  | .cell address => Datum.writable (address + 1) = true
  | .scripted address => (∃ n, w.length? (w.consoleAt address).pending = .ok n) ∧
      ∃ n, w.length? (w.consoleAt address).written = .ok n
  | .program stamp target => (w.qualifiedName? (w.wrappedBy (.program stamp target) target)).isSome = true
  | _ => True

/-- Nothing that the text tells of keeps the value from having it. -/
def Tellable (w : World) (v : Value) : Prop := ∀ u, ReflTransGen w.Mentions v u → w.Sayable u

theorem Tellable.mentions {w : World} {v u : Value} (hv : w.Tellable v) (hu : w.Mentions v u) :
    w.Tellable u := fun y hy => hv y (hy.head hu)

/-! ### One step of a spelling -/

section step

variable {w : World} {onRef : Place → Reference → Datum} {v : Value} {place : Place}
  {kind : FaultKind} {args : Datum}

/-- The spelling of a value speaks, wherever the value stands. -/
def Voiced (w : World) (onRef : Place → Reference → Datum) (v : Value) : Prop :=
  ∀ place, (spellWith w onRef place v).Speaks

/-- What a value refers to speaks, wherever it is met. -/
def Answered (w : World) (onRef : Place → Reference → Datum) (v : Value) : Prop :=
  ∀ r, w.Refers v r → ∀ place, (onRef place r).Speaks

theorem speaks_enter {identity : Option Identity} {container : Container} {inner : Place → Datum}
    (hinner : ∀ place, (inner place).Speaks) : (enter place identity container inner).Speaks :=
  enter_induction (P := Datum.Speaks) (.again container) hinner place identity

theorem spellEntries_eq_map (entries : List (Value × Value)) :
    spellEntries w onRef place entries =
      entries.map fun e => (spellWith w onRef place e.1, spellWith w onRef place e.2) := by
  induction entries with
  | nil => rw [spellEntries, List.map_nil]
  | cons e rest ih => rw [spellEntries, ih, List.map_cons]

theorem speaks_of_mem_spellAll {items : List Value} (hitems : ∀ v ∈ items, w.Voiced onRef v)
    (place : Place) : ∀ d ∈ spellAll w onRef place items, d.Speaks := by
  rw [spellAll_eq_map, List.forall_mem_map]
  exact fun v hv => hitems v hv place

theorem speaks_of_mem_spellEntries {entries : List (Value × Value)}
    (hentries : ∀ v ∈ entryParts entries, w.Voiced onRef v) (place : Place) :
    (∀ e ∈ spellEntries w onRef place entries, e.1.Speaks) ∧
      ∀ e ∈ spellEntries w onRef place entries, e.2.Speaks := by
  obtain ⟨hkeys, hvalues⟩ := forall_mem_entryParts.1 hentries
  rw [spellEntries_eq_map, List.forall_mem_map, List.forall_mem_map]
  exact ⟨fun e he => hkeys e he place, fun e he => hvalues e he place⟩

/-- The part of an entry that a view shows speaks if the entry does. -/
theorem speaks_part {e : Datum × Datum} (hkey : e.1.Speaks) (hvalue : e.2.Speaks) (kind : View) :
    (kind.part e).Speaks := by
  cases kind with
  | keys => exact hkey
  | values => exact hvalue
  | items => exact .tuple (List.forall_mem_cons.2 ⟨hkey, List.forall_mem_singleton.2 hvalue⟩)

/-- What is looked up in an object speaks if what was given to it does, and its own. -/
theorem speaks_givenOr {name : String} {own : Datum}
    (hgiven : ∀ i, v.identity? = some i → (onRef place (.given i name)).Speaks) (hown : own.Speaks) :
    (givenOr w (onRef place) v name own).Speaks := by
  unfold givenOr
  split
  · next i hi =>
    split
    · exact hgiven i hi
    · exact hown
  · exact hown

theorem exists_callableText
    (hname : ∀ i, v.identity? = some i → (onRef place (.given i "__qualname__")).Speaks) :
    ∃ text, callableText w (onRef place) v = .ok text := by
  unfold callableText
  split
  · exact ⟨_, rfl⟩
  · exact (speaks_givenOr hname .none).exists_str?

/-- **A program can be told if what it is made of has a name.** -/
theorem exists_programText {target : Value}
    (hname : ∀ i, (w.wrappedBy v target).identity? = some i →
      (onRef place (.given i "__qualname__")).Speaks)
    (hnamed : (w.qualifiedName? (w.wrappedBy v target)).isSome = true) :
    ∃ text, programText w (onRef place) v target = .ok text := by
  unfold programText
  obtain ⟨name, hqualified⟩ := Option.isSome_iff_exists.1 hnamed
  simp only [hqualified]
  split
  · exact ⟨_, rfl⟩
  · exact exists_bind_ok (speaks_givenOr hname .none).exists_str? fun _ => ⟨_, rfl⟩
  · next h => cases h

theorem exists_keywordTexts {keywords : List (String × Value)}
    (hkeywords : ∀ v ∈ keywords.map Prod.snd, w.Voiced onRef v) :
    ∃ texts, keywordTexts w onRef place keywords = .ok texts := by
  induction keywords with
  | nil => exact ⟨[], by rw [keywordTexts]⟩
  | cons e rest ih =>
    obtain ⟨hvalue, hrest⟩ := List.forall_mem_cons.1 hkeywords
    rw [keywordTexts]
    exact exists_bind_ok (hvalue place).exists_repr? fun _ => exists_bind_ok (ih hrest) fun _ =>
      ⟨_, rfl⟩

theorem exists_faultMessage {number text : Datum} {first second : List Datum} (hargs : args.Speaks)
    (hnumber : number.Speaks) (htext : text.Speaks) (hfirst : ∀ d ∈ first, d.Speaks)
    (hsecond : ∀ d ∈ second, d.Speaks) (known : Bool) :
    ∃ message, faultMessage kind args number text first second known = .ok message := by
  unfold faultMessage
  split
  · refine Datum.exists_systemMessage? hnumber htext ?_
    split
    · exact List.forall_mem_nil _
    · exact List.forall_mem_append.2 ⟨hfirst, hsecond⟩
  · exact hargs.exists_message? kind

/-- **A fault speaks if its arguments do,** what is known about it, and what was given to it. -/
theorem speaks_spellFault {detail : FaultDetail Value} (hargs : args.Speaks)
    (htold : ∀ u ∈ detail.told, w.Voiced onRef u)
    (hgiven : ∀ name ∈ ["errno", "strerror", "filename", "filename2"], ∀ i, v.identity? = some i →
      ∀ place, (onRef place (.given i name)).Speaks) :
    (spellFault w onRef place v kind args detail).Speaks := by
  have hlooked (place : Place) : ∀ name ∈ ["errno", "strerror", "filename", "filename2"],
      ∀ own : Datum, own.Speaks → (givenOr w (onRef place) v name own).Speaks :=
    fun name hname own hown => speaks_givenOr (fun i hi => hgiven name hname i hi place) hown
  have hone {place : Place} {name : String} {own : List Datum}
      (hname : name ∈ ["errno", "strerror", "filename", "filename2"]) (hown : ∀ d ∈ own, d.Speaks) :
      ∀ d ∈ (if (w.given? v name).isSome then [givenOr w (onRef place) v name .none] else own),
        d.Speaks := by
    split
    · exact List.forall_mem_singleton.2 (hlooked place name hname _ .none)
    · exact hown
  have hhead {ds : List Datum} (hds : ∀ d ∈ ds, d.Speaks) : (ds.head?.getD .none).Speaks := by
    cases ds with
    | nil => exact .none
    | cons d ds => exact hds d List.mem_cons_self
  cases detail with
  | suspended =>
    rw [spellFault]
    exact .fault hargs (hargs.exists_message? kind)
  | system number text files =>
    rw [spellFault]
    obtain ⟨hnumber, htext, hfiles⟩ : w.Voiced onRef number ∧ w.Voiced onRef text ∧
        ∀ u ∈ files, w.Voiced onRef u := by
      obtain ⟨hnumber, hrest⟩ := List.forall_mem_cons.1 htold
      exact ⟨hnumber, List.forall_mem_cons.1 hrest⟩
    have hown := speaks_of_mem_spellAll hfiles place.text
    refine .fault hargs (exists_faultMessage hargs (hlooked _ _ ?_ _ (hnumber _))
      (hlooked _ _ ?_ _ (htext _)) (hone ?_ fun d hd => hown d (List.mem_of_mem_take hd))
      (hone ?_ fun d hd => hown d (List.mem_of_mem_drop (List.mem_of_mem_take hd))) true)
    all_goals decide
  | plain | parse | overflow | lookup =>
    unfold spellFault
    refine .fault hargs (exists_faultMessage hargs (hhead (hone ?_ (List.forall_mem_nil _)))
      (hhead (hone ?_ (List.forall_mem_nil _))) (hone ?_ (List.forall_mem_nil _))
      (hone ?_ (List.forall_mem_nil _)) _)
    all_goals decide

/-- **A node can be told:** a finished one by its value, an action by its label or its thunk, and every
other one by the variant of its source and the callable that goes on. -/
theorem exists_nodeText {stamp : Nat} {n : Node Value}
    (hparts : ∀ u ∈ (Value.node stamp n).toldParts, w.Voiced onRef u)
    (hrefs : w.Answered onRef (.node stamp n)) :
    ∃ text, nodeText w onRef place n = .ok text := by
  have hnamed {f : Value} (hf : (f, "__qualname__") ∈ w.attributesRead (.node stamp n)) :
      ∃ text, callableText w (onRef place) f = .ok text :=
    exists_callableText fun i hi => hrefs _ (.attribute hf hi) place
  cases n with
  | done v =>
    rw [nodeText]
    exact exists_bind_ok (hparts v (List.mem_singleton_self v) place).exists_repr? fun _ => ⟨_, rfl⟩
  | delay thunk label =>
    rw [nodeText]
    split
    · have hlabel := hparts label (List.mem_singleton_self label) place
      exact exists_bind_ok hlabel.exists_str? fun _ => ⟨_, rfl⟩
    · exact exists_bind_ok (hnamed (List.mem_singleton_self _)) fun _ => ⟨_, rfl⟩
  | flatMap | recover =>
    rw [nodeText]
    exact exists_bind_ok (hnamed (List.mem_singleton_self _)) fun _ => ⟨_, rfl⟩
  | foreign variant => exact ⟨_, by rw [nodeText]⟩

/-- **A fault speaks** by its arguments and its message, and by what scripts have put in their place. -/
theorem voiced_fault {f : Fault Value} (hparts : ∀ u ∈ (Value.fault f).toldParts, w.Voiced onRef u)
    (hrefs : w.Answered onRef (.fault f)) :
    w.Voiced onRef (.fault f) := by
  intro place
  obtain ⟨kind, args, detail, stamp⟩ := f
  obtain ⟨hargs, htold⟩ := List.forall_mem_append.1 hparts
  have hgiven : ∀ name ∈ ["args", "errno", "strerror", "filename", "filename2"], ∀ i,
      (Value.fault ⟨kind, args, detail, stamp⟩).identity? = some i →
        ∀ place, (onRef place (.given i name)).Speaks :=
    fun name hname i hi => hrefs _ (.attribute (List.mem_map_of_mem hname) hi)
  rw [spellWith]
  refine speaks_spellFault (speaks_givenOr ?_ ?_) htold fun name hname => ?_
  · exact fun i hi => hgiven "args" List.mem_cons_self i hi _
  · exact speaks_enter fun _ => .tuple (speaks_of_mem_spellAll hargs _)
  · exact hgiven name (List.mem_cons_of_mem _ hname)

/-- An interpreter speaks by its settings. -/
theorem voiced_interpreter {stamp : Nat} {limit trace : Value}
    (hparts : ∀ u ∈ (Value.interpreter stamp limit trace).toldParts, w.Voiced onRef u)
    (hrefs : w.Answered onRef (.interpreter stamp limit trace)) :
    w.Voiced onRef (.interpreter stamp limit trace) := by
  intro place
  rw [spellWith]
  obtain ⟨hlimit, htrace⟩ := List.forall_mem_cons.1 hparts
  have hgiven : ∀ name ∈ ["_max_stack_depth", "_trace_steps"], ∀ i,
      (Value.interpreter stamp limit trace).identity? = some i →
        ∀ place, (onRef place (.given i name)).Speaks :=
    fun name hname i hi => hrefs _ (.attribute (List.mem_map_of_mem hname) hi)
  refine .object (exists_bind_ok (speaks_givenOr ?_ (hlimit _)).exists_str? fun _ =>
    exists_bind_ok (speaks_givenOr ?_ (List.forall_mem_singleton.1 htrace _)).exists_str? fun _ =>
      ⟨_, rfl⟩)
  · exact fun i hi => hgiven _ List.mem_cons_self i hi _
  · exact fun i hi => hgiven _ (List.mem_cons_of_mem _ List.mem_cons_self) i hi _

/-- **A callable with arguments speaks** by the callable, the arguments, and the named ones, which may be
those of a dictionary that a script has put in their place. -/
theorem voiced_preset {stamp : Nat} {target : Value} {args : List Value}
    {keywords : List (String × Value)}
    (hparts : ∀ u ∈ (Value.preset stamp target args keywords).toldParts, w.Voiced onRef u)
    (hrefs : w.Answered onRef (.preset stamp target args keywords)) :
    w.Voiced onRef (.preset stamp target args keywords) := by
  intro place
  rw [spellWith]
  obtain ⟨htarget, hrest⟩ := List.forall_mem_cons.1 hparts
  obtain ⟨hargs, hkeywords⟩ := List.forall_mem_append.1 hrest
  refine speaks_enter fun place => .object (exists_bind_ok (htarget place).exists_repr? fun _ =>
    exists_bind_ok (Datum.exists_reprAll?_of_speaks (speaks_of_mem_spellAll hargs _)) fun _ => ?_)
  split
  · next address hgiven =>
    have hdict := hrefs _ (.keywords hgiven) place
    exact exists_bind_ok hdict.exists_keywordTexts? fun _ => ⟨_, rfl⟩
  · exact exists_bind_ok (exists_keywordTexts hkeywords) fun _ => ⟨_, rfl⟩

/-- A view speaks by the entries that it shows. -/
theorem voiced_view {stamp : Nat} {kind : View} {source : Value}
    (hparts : ∀ u ∈ (Value.view stamp kind source).toldParts, w.Voiced onRef u)
    (hrefs : w.Answered onRef (.view stamp kind source)) :
    w.Voiced onRef (.view stamp kind source) := by
  intro place
  rw [spellWith]
  refine speaks_enter fun place => .object ?_
  cases source with
  | dict address => exact exists_bind_ok (hrefs _ .view place).exists_repr? fun _ => ⟨_, rfl⟩
  | frozenDict stamp entries =>
    obtain ⟨hkeys, hvalues⟩ := speaks_of_mem_spellEntries hparts place
    have hshown : (Datum.list ((spellEntries w onRef place entries).map kind.part)).Speaks := by
      refine .list (List.forall_mem_map.2 fun e he => ?_)
      exact speaks_part (hkeys e he) (hvalues e he) kind
    exact exists_bind_ok hshown.exists_repr? fun _ => ⟨_, rfl⟩
  | _ => exact ⟨_, rfl⟩

/-- **What is spelled out at a value speaks** if its parts and what it refers to do, and nothing of its own
keeps it from having a text. -/
theorem voiced_of_toldParts (hparts : ∀ u ∈ v.toldParts, w.Voiced onRef u)
    (hrefs : w.Answered onRef v) (hv : w.Sayable v) :
    w.Voiced onRef v := by
  intro place
  cases v with
  | none => exact .none
  | bool b => exact .bool b
  | int i => exact .int hv
  | float stamp x => exact .float x
  | str s => exact .str s
  | range stamp a b => exact .range hv.1 hv.2
  | tuple stamp items =>
    rw [spellWith]
    exact speaks_enter fun _ => .tuple (speaks_of_mem_spellAll hparts _)
  | frozenDict stamp entries =>
    rw [spellWith]
    refine speaks_enter fun place => ?_
    obtain ⟨hkeys, hvalues⟩ := speaks_of_mem_spellEntries hparts place
    exact .frozenDict hkeys hvalues
  | list address => exact hrefs _ .list place
  | dict address => exact hrefs _ .dict place
  | stats address => exact hrefs _ .stats place
  | runState address => exact hrefs _ .runState place
  | deque address => exact .object (hrefs _ .deque _).exists_repr?
  | ok stamp u =>
    rw [spellWith]
    exact speaks_enter fun place => .ok (hparts u (List.mem_singleton_self u) place)
  | err stamp u =>
    rw [spellWith]
    exact speaks_enter fun place => .err (hparts u (List.mem_singleton_self u) place)
  | runResult stamp r s f =>
    rw [spellWith]
    obtain ⟨hr, hrest⟩ := List.forall_mem_cons.1 hparts
    obtain ⟨hs, hf⟩ := List.forall_mem_cons.1 hrest
    have hf := List.forall_mem_singleton.1 hf
    exact speaks_enter fun place => .runResult (hr place) (hs place) (hf place)
  | node stamp n => exact .object (exists_nodeText hparts hrefs)
  | frame stamp f =>
    rw [spellWith]
    refine speaks_enter fun place => .object ?_
    cases f with
    | continuation f | boundary f =>
      rw [frameText]
      have hf := hparts f (List.mem_singleton_self f) place
      exact exists_bind_ok hf.exists_repr? fun _ => ⟨_, rfl⟩
  | cell address =>
    rw [spellWith]
    have hgiven : ∀ i, (Value.cell address).identity? = some i →
        (onRef place.text (.given i "ref_id")).Speaks :=
      fun i hi => hrefs _ (.attribute (List.mem_singleton_self _) hi) _
    exact .object (exists_bind_ok (speaks_givenOr hgiven (.int hv)).exists_str? fun _ => ⟨_, rfl⟩)
  | scripted address =>
    rw [spellWith]
    exact .object (exists_bind_ok hv.1 fun _ => exists_bind_ok hv.2 fun _ => ⟨_, rfl⟩)
  | closure c =>
    rw [spellWith]
    refine .object (exists_bind_ok (exists_callableText fun i hi => ?_) fun _ => ⟨_, rfl⟩)
    exact hrefs _ (.attribute (List.mem_singleton_self _) hi) _
  | program stamp target =>
    rw [spellWith]
    refine .object (exists_programText (fun i hi => ?_) hv)
    exact hrefs _ (.attribute (List.mem_singleton_self _) hi) _
  | method stamp receiver m =>
    rw [spellWith]
    refine .object ?_
    cases hbuiltin : m.isBuiltin with
    | true => exact ⟨_, rfl⟩
    | false =>
      have hreceiver : receiver ∈ (Value.method stamp receiver m).toldParts := by
        rw [Value.toldParts, hbuiltin]
        exact List.mem_singleton_self receiver
      exact exists_bind_ok (hparts receiver hreceiver _).exists_repr? fun _ => ⟨_, rfl⟩
  | fault f => exact voiced_fault hparts hrefs place
  | interpreter => exact voiced_interpreter hparts hrefs place
  | preset => exact voiced_preset hparts hrefs place
  | view => exact voiced_view hparts hrefs place
  | operation op => cases op <;> exact .object ⟨_, rfl⟩
  | _ => exact .object ⟨_, rfl⟩

end step

/-! ### Whole spellings -/

section whole

variable {w : World} {supply : Nat}

/-- **What is spelled out of a reference speaks** if what there is does. -/
theorem speaks_spellReference {r : Reference}
    (hcontents : ∀ u ∈ w.contents r, w.Voiced (w.spellReference supply) u) (place : Place) :
    (spellReference w (supply + 1) place r).Speaks := by
  cases r with
  | list address =>
    rw [spellReference]
    refine speaks_enter fun place => .list (List.forall_mem_map.2 fun u hu => ?_)
    exact hcontents u hu place
  | dict address =>
    rw [spellReference]
    obtain ⟨hkeys, hvalues⟩ := forall_mem_entryParts.1 hcontents
    exact speaks_enter fun place => .dict (List.forall_mem_map.2 fun e he => hkeys e he place)
      (List.forall_mem_map.2 fun e he => hvalues e he place)
  | stats address =>
    rw [spellReference]
    have hfields (place : Place) : ∀ d ∈ (w.statsAt address).toList.map
        (spellWith w (spellReference w supply) place), d.Speaks :=
      List.forall_mem_map.2 fun u hu => hcontents u hu place
    refine speaks_enter fun place => ?_
    unfold spellStats
    split
    · exact .stats (hfields place)
    · exact .stats (hfields place)
  | runState address =>
    rw [spellReference]
    obtain ⟨hcurrent, hrest⟩ := List.forall_mem_cons.1 hcontents
    obtain ⟨hstack, hstats⟩ := List.forall_mem_cons.1 hrest
    exact speaks_enter fun place =>
      .runState (hcurrent place) (hstack place) (List.forall_mem_singleton.1 hstats place)
  | deque address =>
    rw [spellReference]
    refine speaks_enter fun place => .object ?_
    have hitems : (Datum.list ((w.dequeAt address).items.map
        (spellWith w (spellReference w supply) place))).Speaks :=
      .list (List.forall_mem_map.2 fun u hu => hcontents u hu place)
    exact exists_bind_ok hitems.exists_repr? fun _ => ⟨_, rfl⟩
  | entries address kind =>
    rw [spellReference]
    obtain ⟨hkeys, hvalues⟩ := forall_mem_entryParts.1 hcontents
    refine .list (List.forall_mem_map.2 fun e he => ?_)
    exact speaks_part (hkeys e he place) (hvalues e he place) kind
  | given owner name =>
    rw [spellReference]
    rw [contents] at hcontents
    cases hlookup : w.attributes.lookup (owner, name) with
    | none => exact .none
    | some v =>
      rw [hlookup] at hcontents
      split
      · next hone =>
        cases hone
        exact .tuple (List.forall_mem_singleton.2 (List.forall_mem_singleton.1 hcontents place))
      · next u hother hone =>
        cases hone
        split at hcontents
        · next hone =>
          cases hone
          exact absurd rfl (hother _ _)
        · next hone =>
          cases hone
          exact List.forall_mem_singleton.1 hcontents place
        · next hnone => cases hnone
      · next hnone => cases hnone

/-- **While what is referred to speaks,** so does everything else that can be told.  The recursion is on
the value, whose parts are smaller. -/
theorem Tellable.voiced_of_refs {onRef : Place → Reference → Datum}
    (hrefs : ∀ v, w.Tellable v → w.Answered onRef v) :
    ∀ {v : Value}, w.Tellable v → w.Voiced onRef v
  | v, hv => by
    refine voiced_of_toldParts (fun u hu => ?_) (hrefs v hv) (hv v .refl)
    have hsmaller : sizeOf u < sizeOf v := Value.sizeOf_lt_of_mem_toldParts hu
    exact voiced_of_refs hrefs (hv.mentions (.part hu))
termination_by v => sizeOf v

/-- **What can be told is spelled out into data that speak,** however long the supply lasts: past its end
there are only marks. -/
theorem Tellable.voiced (supply : Nat) {v : Value} (hv : w.Tellable v) :
    w.Voiced (w.spellReference supply) v := by
  induction supply generalizing v with
  | zero =>
    refine hv.voiced_of_refs fun _ _ r _ place => ?_
    rw [spellReference]
    exact .again .list
  | succ supply ih =>
    exact hv.voiced_of_refs fun v hv r hr place =>
      speaks_spellReference (fun u hu => ih (hv.mentions (.content hr hu))) place

/-- **A value has a text** if nothing that the text tells of keeps it from having one. -/
theorem Tellable.exists_repr? {v : Value} (hv : w.Tellable v) : ∃ text, w.repr? v = .ok text :=
  (hv.voiced _ _).exists_repr?

end whole

end World
end EffectGraph
