import Mathlib.Logic.Function.Basic
import PageScan.Proofs.Script.Reading
import PageScan.Script.Bench

/-!
# Pulling tokens and reading a script at once

The lexers on a bench are bound to scripts, asked for one token, for some or for all, copied into
each other's place and bound again, in any order. Beside the bench a `Log` keeps what an observer
sees: for the lexer in each slot the script that it was bound to last, and the tokens that it has
delivered since. A copy comes with the history of the lexer that it was taken from.

One invariant ties the two together, whatever is done (`Log.reads_after`): the lexer in a slot has
read the tokens of its history off the script of its history. What the lexer shows then follows from
what is known of runs. It has delivered the first of the tokens that the script comes out in at
once, it stands where the last of these stops, and it owns up to a malformed token when that is
among them (`History.InStep`). What it has not delivered yet is what it goes on with, one token, a
number of them or all (`Bench.Delivers`), since a lexer that has read the first tokens of a script
reads the others next. Once it has delivered all, there is nothing more to pull (`Bench.Spent`), and
this stays so until something else is put into its slot.
-/

namespace PageScan.Script

/-! ### What an observer sees -/

/-- What is behind a lexer since it was bound: the script, and the tokens delivered. -/
structure History where
  script : List UInt8 := []
  delivered : List Token := []
  deriving DecidableEq, Repr

/-- The tokens of a delivery, end marks left out. -/
def Delivery.proper (d : Delivery) : List Token := d.tokens.filter (!·.isEnd)

namespace Operation

/-- Whether the operation, done in slot `s`, puts another lexer into slot `t`. -/
def binds (s t : Slot) : Operation → Bool
  | .renew | .place _ | .rebind _ => s == t
  | .copyTo target => target == t
  | .pull | .next | .take _ | .drain | .inspect => false

/-- The histories behind the operation, done in slot `s` with the delivery `d`. -/
def record (s : Slot) (d : Delivery) (h : Slot → History) : Operation → Slot → History
  | .renew => Function.update h s {}
  | .place script | .rebind script => Function.update h s { script }
  | .copyTo target => Function.update h target (h s)
  | .pull | .next | .take _ | .drain | .inspect =>
    Function.update h s { h s with delivered := (h s).delivered ++ d.proper }

end Operation

/-- **A bench under observation:** the bench, and the history of the lexer in each slot. -/
structure Log where
  bench : Bench := {}
  history : Slot → History := fun _ => {}

namespace Log

/-- One operation in a slot. -/
def step (w : Log) (o : Slot × Operation) : Log :=
  let (d, bench) := w.bench.perform o.1 o.2
  ⟨bench, o.2.record o.1 d w.history⟩

/-- The log of a list of operations, from two lexers that were never bound. -/
def after (ops : List (Slot × Operation)) : Log := ops.foldl step {}

theorem after_append (ops more : List (Slot × Operation)) :
    after (ops ++ more) = more.foldl step (after ops) := List.foldl_append

end Log

/-! ### One operation -/

/-- A delivery of the tokens of a run holds no end mark. -/
theorem Reads.proper {l l' : Lexer} {ts : List Token} (h : Reads l ts l')
    (reports : List Malformed) : Delivery.proper ⟨ts, reports⟩ = ts := by
  rw [Delivery.proper, List.filter_eq_self]
  intro t ht
  rw [h.not_isEnd t ht, Bool.not_false]

theorem tells_of_next? {l : Lexer} {p : Pull} (h : l.next? = some p) :
    Tells l (Delivery.proper ⟨[p.token], p.report.toList⟩) p.report.toList p.lexer := by
  have htells : Tells l [p.token] (p.report.toList ++ []) p.lexer := .read h (.done _)
  rw [List.append_nil] at htells
  rwa [htells.reads.proper]

namespace Bench

theorem put_lexer (b : Bench) (s : Slot) : b.put (b.lexer s) s = b := by
  cases s <;> rfl

theorem lexer_put (b : Bench) (l : Lexer) (s : Slot) :
    (b.put l s).lexer = Function.update b.lexer s l := by
  funext t
  -- the slot itself, or another one, which is not touched
  by_cases h : t = s
  · subst h
    rw [lexer_put_self, Function.update_self]
  · rw [lexer_put_of_ne b l (Ne.symm h), Function.update_of_ne h]

/-- **An operation that binds nothing** lets the lexer in its slot read on, and delivers the tokens
that are read and the reports that are made. -/
theorem perform_tells (b : Bench) (s : Slot) {op : Operation} (h : ∀ t, op.binds s t = false) :
    ∃ l', (b.perform s op).2 = b.put l' s ∧
      Tells (b.lexer s) (b.perform s op).1.proper (b.perform s op).1.reports l' := by
  cases op with
  | renew | place | rebind => exact absurd (h s) (by simp [Operation.binds])
  | copyTo target => exact absurd (h target) (by simp [Operation.binds])
  | pull =>
    refine ⟨(b.lexer s).pull.lexer, rfl, ?_⟩
    cases hn : (b.lexer s).next? with
    | none =>
      -- the end mark is no token of the run
      rw [perform, Lexer.pull_of_none hn]
      exact .done _
    | some p =>
      rw [perform, Lexer.pull_of_some hn]
      exact tells_of_next? hn
  | next =>
    cases hn : (b.lexer s).next? with
    | none =>
      refine ⟨b.lexer s, ?_, ?_⟩
      · rw [perform, hn, put_lexer]
      · rw [perform, hn]
        exact .done _
    | some p =>
      refine ⟨p.lexer, ?_, ?_⟩
      · rw [perform, hn]
      · rw [perform, hn]
        exact tells_of_next? hn
  | take count =>
    have htells := (b.lexer s).tells_take count
    refine ⟨((b.lexer s).take count).lexer, rfl, ?_⟩
    rw [perform, htells.reads.proper]
    exact htells
  | drain =>
    have htells := (b.lexer s).tells_drain
    refine ⟨(b.lexer s).drain.lexer, rfl, ?_⟩
    rw [perform, htells.reads.proper]
    exact htells
  | inspect => exact ⟨b.lexer s, (put_lexer b s).symm, .done _⟩

/-- Such an operation is a run, whatever is reported. -/
theorem perform_reads (b : Bench) (s : Slot) {op : Operation} (h : ∀ t, op.binds s t = false) :
    ∃ l', (b.perform s op).2 = b.put l' s ∧
      Reads (b.lexer s) (b.perform s op).1.proper l' := by
  obtain ⟨l', hbench, htells⟩ := b.perform_tells s h
  exact ⟨l', hbench, htells.reads⟩

end Bench

/-! ### The invariant -/

namespace Log

/-- **The invariant:** the lexer in each slot has read the tokens of its history off the script of
its history. -/
def Faithful (w : Log) : Prop :=
  ∀ s, Reads (Lexer.on (w.history s).script) (w.history s).delivered (w.bench.lexer s)

namespace Faithful

variable {w : Log}

theorem put (hw : w.Faithful) (s : Slot) {l : Lexer} {h : History}
    (hl : Reads (Lexer.on h.script) h.delivered l) :
    Faithful ⟨w.bench.put l s, Function.update w.history s h⟩ := by
  intro t
  dsimp only
  rw [Bench.lexer_put]
  by_cases hts : t = s
  · subst hts
    rwa [Function.update_self, Function.update_self]
  · rw [Function.update_of_ne hts, Function.update_of_ne hts]
    exact hw t

/-- What reads on makes its history longer. -/
theorem step_of_not_binds (hw : w.Faithful) (s : Slot) {op : Operation}
    (hop : ∀ t, op.binds s t = false) : (w.step (s, op)).Faithful := by
  obtain ⟨l', hbench, hreads⟩ := w.bench.perform_reads s hop
  have hrecord (d : Delivery) : op.record s d w.history = Function.update w.history s
      { w.history s with delivered := (w.history s).delivered ++ d.proper } := by
    cases op with
    | renew | place | rebind => exact absurd (hop s) (by simp [Operation.binds])
    | copyTo target => exact absurd (hop target) (by simp [Operation.binds])
    | pull | next | take | drain | inspect => rfl
  rw [step]
  dsimp only
  rw [hbench, hrecord]
  exact hw.put s (Reads.append_iff.2 ⟨_, hw s, hreads⟩)

/-- **What one operation preserves.** -/
theorem step (hw : w.Faithful) (o : Slot × Operation) : (w.step o).Faithful := by
  obtain ⟨s, op⟩ := o
  cases op with
  -- a lexer that is bound has nothing behind it
  | renew | place | rebind => exact hw.put s (.done _)
  | copyTo target => exact hw.put target (hw s)
  | pull | next | take | drain | inspect => exact hw.step_of_not_binds s fun _ => rfl

end Faithful

/-- What a list of operations preserves. -/
theorem reads_foldl {w : Log} (hw : w.Faithful) (ops : List (Slot × Operation)) :
    (ops.foldl Log.step w).Faithful := by
  induction ops generalizing w with
  | nil => exact hw
  | cons o ops ih => exact ih (hw.step o)

/-- From two lexers that were never bound, every list of operations keeps to the invariant. -/
theorem reads_after (ops : List (Slot × Operation)) : (after ops).Faithful := by
  refine reads_foldl ?_ ops
  -- a lexer that was never bound is one on the empty script
  intro s
  cases s <;> exact .done _

end Log

/-! ### What the history tells about the lexer -/

/-- **A lexer in step with its script.** It has delivered the first of the tokens of the script,
stands where the last of these stops, and has met a malformed token exactly when it has delivered
them all and the script is malformed. -/
structure History.InStep (h : History) (l : Lexer) : Prop where
  delivered : h.delivered <+: (tokenize h.script).tokens
  position : l.position = (h.delivered.getLast?.map (·.span.stop)).getD 0
  malformed : l.malformed = true ↔
    h.delivered = (tokenize h.script).tokens ∧ (tokenize h.script).malformed = true

/-- Nothing is left to read once all tokens are delivered. -/
theorem Reads.next?_of_all {script : List UInt8} {l : Lexer}
    (h : Reads (Lexer.on script) (tokenize script).tokens l) : l.next? = none := by
  have hall : (tokenize script).tokens = (tokenize script).tokens ++ l.drain.tokens :=
    h.tokens_drain
  -- the tokens delivered are all there are, so no others are left
  have hnil : l.drain.tokens = [] := List.self_eq_append_right.1 hall
  cases hn : l.next? with
  | none => rfl
  | some p =>
    rw [Lexer.drain_of_some hn, Run.tokens_cons] at hnil
    exact absurd hnil (List.cons_ne_nil _ _)

/-- A lexer that has read the tokens of its history is in step with the script. -/
theorem Reads.inStep {h : History} {l : Lexer}
    (hr : Reads (Lexer.on h.script) h.delivered l) : h.InStep l := by
  have htokens : (tokenize h.script).tokens = h.delivered ++ l.drain.tokens := hr.tokens_drain
  have hlast : (tokenize h.script).malformed = l.drain.lexer.malformed := by
    rw [tokenize, hr.lexer_drain]
  refine ⟨⟨_, htokens.symm⟩, hr.position_eq_stop, ?_, ?_⟩
  · -- behind a malformed token there are no others
    intro hm
    have hdrain := Lexer.drain_of_none (Lexer.next?_eq_none_iff.2 (.inr hm))
    rw [htokens, hlast, hdrain]
    exact ⟨(List.append_nil _).symm, hm⟩
  · rintro ⟨hall, hm⟩
    -- a lexer that has read all tokens is the one that the script leaves
    rw [hall] at hr
    rw [hlast, Lexer.drain_of_none hr.next?_of_all] at hm
    exact hm

/-- The tokens of the script that are not delivered yet are those that the lexer is to give. -/
theorem Reads.drop_delivered {script : List UInt8} {ts : List Token} {l : Lexer}
    (h : Reads (Lexer.on script) ts l) :
    (tokenize script).tokens.drop ts.length = l.drain.tokens := by
  have htokens : (tokenize script).tokens = ts ++ l.drain.tokens := h.tokens_drain
  rw [htokens, List.drop_left]

/-! ### What is left to pull -/

namespace Bench

/-- **The tokens that are left in a slot.** Each way of pulling delivers the first of them: one,
with the end mark at the place of the lexer when there is none; one or none; as many as are asked
for, or fewer when fewer are left; all. -/
structure Delivers (b : Bench) (s : Slot) (left : List Token) : Prop where
  pull : (b.perform s .pull).1.tokens =
    [left.head?.getD ⟨.endOfInput, ⟨(b.lexer s).position, (b.lexer s).position⟩, []⟩]
  next : (b.perform s .next).1.tokens = left.take 1
  take (count : Nat) : (b.perform s (.take count)).1.tokens = left.take count
  drain : (b.perform s .drain).1.tokens = left

/-- What is left in a slot is what its lexer gives when it is asked for all tokens. -/
theorem delivers_drain (b : Bench) (s : Slot) : b.Delivers s (b.lexer s).drain.tokens := by
  refine ⟨?_, ?_, fun count => (b.lexer s).tokens_take count, rfl⟩
  · rw [perform]
    -- a token or, behind all of them, the end mark
    cases hn : (b.lexer s).next? with
    | none =>
      rw [Lexer.pull_of_none hn, Lexer.drain_of_none hn]
      rfl
    | some p =>
      rw [Lexer.pull_of_some hn, Lexer.drain_of_some hn]
      rfl
  · rw [perform]
    cases hn : (b.lexer s).next? with
    | none => rw [Lexer.drain_of_none hn, List.take_nil]
    | some p => rw [Lexer.drain_of_some hn, Run.tokens_cons, List.take_succ_cons, List.take_zero]

/-! ### Nothing more to pull -/

/-- **A slot in which nothing is left to pull:** the end mark is delivered, empty and at the place
of the lexer, or no token at all; no report is made; the bench stays as it is. -/
structure Spent (b : Bench) (s : Slot) : Prop where
  pull : b.perform s .pull =
    (⟨[⟨.endOfInput, ⟨(b.lexer s).position, (b.lexer s).position⟩, []⟩], []⟩, b)
  next : b.perform s .next = ({}, b)
  take (count : Nat) : b.perform s (.take count) = ({}, b)
  drain : b.perform s .drain = ({}, b)

variable {b : Bench} {s : Slot}

/-- A slot whose lexer has nothing left to read is spent. -/
theorem spent_of_next?_eq_none (h : (b.lexer s).next? = none) : b.Spent s := by
  have hput := b.put_lexer s
  refine ⟨?_, ?_, ?_, ?_⟩
  · -- the lexer that comes with the end mark is the one that was asked
    rw [perform, Lexer.pull_of_none h, hput]
    rfl
  · rw [perform, h]
  · intro count
    have htake : (b.lexer s).take count = ⟨[], b.lexer s, []⟩ := by
      cases count with
      | zero => rfl
      | succ count => rw [Lexer.take, h]
    rw [perform, htake, hput]
  · rw [perform, Lexer.drain_of_none h, hput]

/-- Reading on, in whatever slot, leaves a lexer with nothing left to read as it is. -/
theorem lexer_perform_of_reads (h : (b.lexer s).next? = none) {t : Slot} {op : Operation}
    (hop : ∀ u, op.binds t u = false) : (b.perform t op).2.lexer s = b.lexer s := by
  obtain ⟨l', hbench, hreads⟩ := b.perform_reads t hop
  rw [hbench]
  -- in the slot itself the run is over at once; other slots are not touched
  by_cases hts : t = s
  · subst hts
    rw [lexer_put_self, hreads.eq_of_next?_eq_none h]
  · exact b.lexer_put_of_ne l' hts

/-- A lexer with nothing left to read stays, unless another is put into its place. -/
theorem lexer_perform_of_not_binds (h : (b.lexer s).next? = none) {t : Slot} {op : Operation}
    (hop : op.binds t s = false) : (b.perform t op).2.lexer s = b.lexer s := by
  cases op with
  | renew | place | rebind => exact b.lexer_put_of_ne _ (beq_eq_false_iff_ne.1 hop)
  | copyTo target => exact b.lexer_put_of_ne _ (beq_eq_false_iff_ne.1 hop)
  | pull | next | take | drain | inspect => exact lexer_perform_of_reads h fun _ => rfl

end Bench

/-- As long as nothing else is put into its slot, a lexer with nothing left to read stays there. -/
theorem Log.lexer_foldl_of_not_binds {w : Log} {s : Slot} (h : (w.bench.lexer s).next? = none)
    {more : List (Slot × Operation)} (hmore : ∀ o ∈ more, o.2.binds o.1 s = false) :
    (more.foldl Log.step w).bench.lexer s = w.bench.lexer s := by
  induction more generalizing w with
  | nil => rfl
  | cons o more ih =>
    have hstep : (w.step o).bench.lexer s = w.bench.lexer s :=
      Bench.lexer_perform_of_not_binds h (hmore o List.mem_cons_self)
    rw [List.foldl_cons, ih (by rwa [hstep]) fun o' ho' => hmore o' (List.mem_cons_of_mem o ho'),
      hstep]

/-- **Pulling tokens is reading the script at once.** Whatever has been done on the bench, the lexer
in each slot is in step with the script that it was bound to last, and whichever way it is pulled it
goes on with the tokens of the script that it has not delivered yet. Once it has delivered all
tokens of the script it stays as it is, and there is nothing more to pull, until another lexer is
put into its slot. A lexer that is bound to a script shows nothing of what was before: the bench is
the one on which a new lexer had been bound to the script. -/
theorem pulled_tokens_are_tokenized (ops : List (Slot × Operation)) (s : Slot) :
    ((Log.after ops).history s).InStep ((Log.after ops).bench.lexer s) ∧
    (Log.after ops).bench.Delivers s
      ((tokenize ((Log.after ops).history s).script).tokens.drop
        ((Log.after ops).history s).delivered.length) ∧
    (((Log.after ops).history s).delivered =
        (tokenize ((Log.after ops).history s).script).tokens →
      ∀ more : List (Slot × Operation), (∀ o ∈ more, o.2.binds o.1 s = false) →
        (Log.after (ops ++ more)).bench.lexer s = (Log.after ops).bench.lexer s ∧
        (Log.after (ops ++ more)).bench.Spent s) ∧
    ∀ script, ∀ op ∈ [Operation.place script, .rebind script],
      (Log.after ops).bench.perform s op = ((Log.after ops).bench.put {} s).perform s op ∧
      (Log.after (ops ++ [(s, op)])).bench.lexer s = Lexer.on script ∧
      (Log.after (ops ++ [(s, op)])).history s = { script } := by
  have hreads := Log.reads_after ops s
  refine ⟨hreads.inStep, ?_, ?_, ?_⟩
  · rw [hreads.drop_delivered]
    exact Bench.delivers_drain _ s
  · intro hall more hmore
    rw [hall] at hreads
    have hnone := hreads.next?_of_all
    have hsame : (Log.after (ops ++ more)).bench.lexer s = (Log.after ops).bench.lexer s := by
      rw [Log.after_append]
      exact Log.lexer_foldl_of_not_binds hnone hmore
    refine ⟨hsame, Bench.spent_of_next?_eq_none ?_⟩
    rw [hsame]
    exact hnone
  · intro script op hop
    -- the lexer that was in the slot before is nowhere in the new one
    rw [Log.after_append, List.foldl_cons, List.foldl_nil]
    have hput : ((Log.after ops).bench.put {} s).put (Lexer.on script) s =
        (Log.after ops).bench.put (Lexer.on script) s := by
      cases s <;> rfl
    rcases List.mem_cons.1 hop with rfl | hop
    · refine ⟨?_, ?_, ?_⟩
      · rw [Bench.perform, Bench.perform, hput]
      · exact Bench.lexer_put_self _ _ s
      · exact Function.update_self ..
    · obtain rfl := List.mem_singleton.1 hop
      refine ⟨?_, ?_, ?_⟩
      · rw [Bench.perform, Bench.perform, Lexer.rebind, Lexer.rebind, hput]
      · exact Bench.lexer_put_self _ _ s
      · exact Function.update_self ..

/-- The regular expression that begins with `/a` is broken off in front of `b`. A copy of the lexer
that met it has nothing more to pull, though a byte is unread, also when the first lexer has gone
to another script. -/
theorem spent_behind_broken_regex :
    let ops := [(Slot.first, Operation.place [0x2F, 0x61, 0x0A, 0x62]), (.first, .pull),
      (.first, .copyTo .second)]
    let more := [(Slot.second, Operation.drain), (.first, .rebind [0x62])]
    ((Log.after ops).history .second).delivered =
        (tokenize ((Log.after ops).history .second).script).tokens ∧
      (Log.after (ops ++ more)).bench.Spent .second ∧
      (Log.after (ops ++ more)).bench.second = ⟨[0x62], 3, false, true⟩ := by
  intro ops more
  have hall : ((Log.after ops).history .second).delivered =
      (tokenize ((Log.after ops).history .second).script).tokens := by decide +kernel
  obtain ⟨hsame, hspent⟩ :=
    (pulled_tokens_are_tokenized ops .second).2.2.1 hall more (by decide +kernel)
  have hlexer : (Log.after ops).bench.lexer .second = ⟨[0x62], 3, false, true⟩ := by
    decide +kernel
  exact ⟨hall, hspent, hsame.trans hlexer⟩

end PageScan.Script
