import PageScan.Proofs.Script.Closed
import PageScan.Proofs.Script.InPlaceReading
import PageScan.Proofs.Script.Pulling

/-!
# One report for a malformed script

That a script is malformed is told in three ways. A report is made when the malformed token is read,
the lexer remembers that there was one, and the result shows it by its last token. The three agree
because a malformed token is the last that is ever read: `Tells.exists_report` follows the reports
along a run up to the token at which the lexer is spoilt, and behind that token there is no step
that could make another report.

It does not matter how the tokens are asked for (`CompleteRun`): one by one with or without an end
mark, some at a time or all at once, in any mixture, or from the lexer in place; nor how often the
lexer is asked again when it has nothing more to give. The report is always the one that
`Diagnoses` describes (`complete_run_reports`).
-/

namespace PageScan.Script

/-! ### The reports of a run -/

/-- A step makes a report when it meets a malformed token, and then about this token. -/
theorem Lexer.report_of_next? {l : Lexer} {p : Pull} (h : l.next? = some p) :
    p.report =
      if p.lexer.malformed then some ⟨p.token.span.start, p.token.kind⟩ else none := by
  obtain ⟨b, rest, -, -, rfl⟩ := next?_eq_some_iff.1 h
  rw [malformed_read, read]
  cases (lexeme l.afterValue b rest).closed with
  | true => rfl
  | false => rfl

namespace Tells

variable {l l' : Lexer} {ts : List Token} {rs : List Malformed}

/-- Where there is nothing to read, nothing is told. -/
theorem eq_nil_of_next?_eq_none (h : Tells l ts rs l') (hl : l.next? = none) :
    ts = [] ∧ rs = [] ∧ l' = l := by
  cases h with
  | done => exact ⟨rfl, rfl, rfl⟩
  | read hp _ => exact absurd (hl.symm.trans hp) (by simp)

/-- **No report** is made on the way to a lexer that has met no malformed token. -/
theorem reports_eq_nil (h : Tells l ts rs l') (hm : l'.malformed = false) : rs = [] := by
  induction h with
  | done => rfl
  | @read l l' p ts rs hp hr ih =>
    -- what is read behind a malformed token is nothing, so that the lexer would stay spoilt
    have hbehind : p.lexer.malformed = false := by
      rw [Bool.eq_false_iff]
      intro hspoilt
      have hend := hr.reads.eq_of_next?_eq_none (Lexer.next?_eq_none_iff.2 (.inr hspoilt))
      rw [hend] at hm
      exact Bool.false_ne_true (hm.symm.trans hspoilt)
    rw [Lexer.report_of_next? hp, hbehind, ih hm]
    rfl

/-- **One report** is made on the way to a malformed token: about the last token of the run. -/
theorem exists_report (h : Tells l ts rs l') (hl : l.malformed = false)
    (hm : l'.malformed = true) :
    ∃ before t, ts = before ++ [t] ∧ rs = [⟨t.span.start, t.kind⟩] := by
  induction h with
  | done => exact absurd (hl.symm.trans hm) Bool.false_ne_true
  | @read l l' p ts rs hp hr ih =>
    rw [Lexer.report_of_next? hp]
    cases hspoilt : p.lexer.malformed with
    | true =>
      obtain ⟨rfl, rfl, -⟩ :=
        hr.eq_nil_of_next?_eq_none (Lexer.next?_eq_none_iff.2 (.inr hspoilt))
      exact ⟨[], p.token, rfl, rfl⟩
    | false =>
      obtain ⟨before, t, rfl, rfl⟩ := ih hspoilt hm
      exact ⟨p.token :: before, t, rfl, rfl⟩

end Tells

/-! ### Requests in a row -/

/-- Two deliveries, one behind the other. -/
instance : Append Delivery := ⟨fun d e => ⟨d.tokens ++ e.tokens, d.reports ++ e.reports⟩⟩

@[simp] theorem Delivery.reports_append (d e : Delivery) :
    (d ++ e).reports = d.reports ++ e.reports := rfl

@[simp] theorem Delivery.proper_append (d e : Delivery) :
    (d ++ e).proper = d.proper ++ e.proper := List.filter_append ..

namespace Bench

/-- **What is delivered** when operations are performed in one slot, one after the other. -/
def deliver (b : Bench) (s : Slot) : List Operation → Delivery
  | [] => {}
  | op :: ops => (b.perform s op).1 ++ (b.perform s op).2.deliver s ops

/-- Requests in a row are a run. -/
theorem deliver_tells (b : Bench) (s : Slot) {ops : List Operation}
    (h : ∀ op ∈ ops, ∀ t, op.binds s t = false) :
    ∃ l', Tells (b.lexer s) (b.deliver s ops).proper (b.deliver s ops).reports l' := by
  induction ops generalizing b with
  | nil => exact ⟨b.lexer s, .done _⟩
  | cons op ops ih =>
    obtain ⟨hop, hops⟩ := List.forall_mem_cons.1 h
    -- the lexer in the slot moves, and the other requests are made to the moved one
    obtain ⟨m, hbench, hfirst⟩ := b.perform_tells s hop
    obtain ⟨l', hbehind⟩ := ih (b.perform s op).2 hops
    rw [hbench, lexer_put_self, ← hbench] at hbehind
    refine ⟨l', ?_⟩
    rw [deliver, Delivery.proper_append, Delivery.reports_append]
    exact hfirst.append hbehind

/-- Tokens that are asked for one by one are the first of those that are left. -/
theorem proper_deliver_pulls (b : Bench) (s : Slot) (n : ℕ) :
    (b.deliver s (List.replicate n .pull)).proper = (b.lexer s).drain.tokens.take n := by
  induction n generalizing b with
  | zero => rfl
  | succ n ih =>
    rw [List.replicate_succ, deliver, Delivery.proper_append, ih]
    -- a lexer with nothing to read gives an end mark, which is no token of the script
    cases hn : (b.lexer s).next? with
    | none =>
      have hspent := spent_of_next?_eq_none hn
      rw [hspent.pull, Lexer.drain_of_none hn, List.take_nil, List.take_nil]
      rfl
    | some p =>
      have hpull : (b.lexer s).pull = p := Lexer.pull_of_some hn
      have hproper : (b.perform s .pull).1.proper = [p.token] := by
        rw [perform, hpull]
        exact (Reads.read hn (.done _)).proper _
      have hbehind : (b.perform s .pull).2.lexer s = p.lexer := by
        rw [perform, hpull, lexer_put_self]
      rw [hproper, hbehind, Lexer.drain_of_some hn]
      rfl

end Bench

/-! ### Requests to the lexer in place -/

/-- What the lexer in place gives when it is asked for `n` tokens, end marks among them. -/
def InPlaceLexer.pulls : ℕ → InPlaceLexer → Option Delivery
  | 0, _ => some {}
  | n + 1, l => do
    let p ← l.pull
    let d ← p.lexer.pulls n
    return ⟨[p.token], p.report.toList⟩ ++ d

/-- In place, too, all tokens and reports are found, the same as by the lexer that is shown. -/
theorem InPlaceLexer.pulls_eq {l : InPlaceLexer} (hl : l.marks.index ≤ l.script.length) {b : Bench}
    {s : Slot} (hview : b.lexer s = l.view) (n : ℕ) :
    l.pulls n = some (b.deliver s (List.replicate n .pull)) := by
  induction n generalizing l b with
  | zero => rfl
  | succ n ih =>
    obtain ⟨p, hp, htoken, hreport, hlexer, hscript, hidx⟩ := pull_view hl
    have hbehind : (b.perform s .pull).2.lexer s = p.lexer.view := by
      rw [Bench.perform, Bench.lexer_put_self, hview, hlexer]
    have hfirst : (b.perform s .pull).1 = ⟨[p.token], p.report.toList⟩ := by
      rw [Bench.perform, hview, ← htoken, ← hreport]
    rw [← hscript] at hidx
    refine Option.bind_eq_some_iff.2 ⟨p, hp, Option.bind_eq_some_iff.2 ⟨_, ih hidx hbehind, ?_⟩⟩
    rw [List.replicate_succ, Bench.deliver, hfirst]
    rfl

/-! ### Complete runs -/

/-- **A complete run over a script:** what a lexer that was bound to the script has delivered to
requests of any kind, or the lexer in place to requests for one token each, if all tokens of the
script are among it. -/
inductive CompleteRun (script : List UInt8) : Delivery → Prop
  | requests {b : Bench} {s : Slot} {ops : List Operation} (hbound : b.lexer s = Lexer.on script)
      (hops : ∀ op ∈ ops, ∀ t, op.binds s t = false)
      (hall : (b.deliver s ops).proper = (tokenize script).tokens) :
      CompleteRun script (b.deliver s ops)
  | inPlace {n : ℕ} {d : Delivery} (hpulls : (InPlaceLexer.on script).pulls n = some d)
      (hall : d.proper = (tokenize script).tokens) : CompleteRun script d

/-- **The report that a script calls for.** It is about the last token, at the offset that the
result shows; there is a byte at this offset, and the token is of one of the three kinds that can be
broken off. -/
structure Diagnoses (script : List UInt8) (r : Malformed) : Prop where
  last : ∃ before t, (tokenize script).tokens = before ++ [t] ∧ r = ⟨t.span.start, t.kind⟩
  offset : (tokenize script).errorOffset? = some r.offset
  inside : r.offset < script.length
  label : r.kind.label ∈ ["string", "comment", "regex"]

section

variable {script : List UInt8} {d : Delivery}

/-- The lexer in place delivers to requests what a lexer in a slot delivers to them. -/
theorem inPlace_pulls (script : List UInt8) (n : ℕ) :
    (InPlaceLexer.on script).pulls n =
      some (({ first := Lexer.on script } : Bench).deliver .first (List.replicate n .pull)) :=
  InPlaceLexer.pulls_eq (Nat.zero_le _) rfl n

theorem binds_of_mem_pulls {n : ℕ} {s t : Slot} {op : Operation}
    (h : op ∈ List.replicate n Operation.pull) : op.binds s t = false := by
  rw [List.eq_of_mem_replicate h]
  rfl

/-- A complete run goes from the start of the script to where nothing is left to read. -/
theorem CompleteRun.tells (h : CompleteRun script d) :
    ∃ l', Tells (Lexer.on script) (tokenize script).tokens d.reports l' ∧
      l'.malformed = (tokenize script).malformed := by
  obtain ⟨l', htells⟩ : ∃ l', Tells (Lexer.on script) d.proper d.reports l' := by
    cases h with
    | requests hbound hops hall =>
      rw [← hbound]
      exact Bench.deliver_tells _ _ hops
    | inPlace hpulls hall =>
      rw [inPlace_pulls] at hpulls
      rw [← Option.some.inj hpulls]
      exact Bench.deliver_tells { first := Lexer.on script } .first
        fun op hop _ => binds_of_mem_pulls hop
  have hall : d.proper = (tokenize script).tokens := by
    cases h with
    | requests _ _ hall => exact hall
    | inPlace _ hall => exact hall
  rw [hall] at htells
  refine ⟨l', htells, ?_⟩
  rw [tokenize, htells.reads.lexer_drain, Lexer.drain_of_none htells.reads.next?_of_all]

/-- The lexer in place completes the run when it is asked often enough. -/
theorem exists_completeRun_pulls {n : ℕ} (h : (tokenize script).tokens.length ≤ n) :
    ∃ d, (InPlaceLexer.on script).pulls n = some d ∧ CompleteRun script d := by
  refine ⟨_, inPlace_pulls script n, .inPlace (inPlace_pulls script n) ?_⟩
  rw [Bench.proper_deliver_pulls]
  exact List.take_of_length_le h

/-- The report about the last token is the one that a malformed script calls for. -/
theorem diagnoses_last {before : List Token} {t : Token} (hm : (tokenize script).malformed = true)
    (htokens : (tokenize script).tokens = before ++ [t]) :
    Diagnoses script ⟨t.span.start, t.kind⟩ := by
  have hlast : (tokenize script).tokens.getLast? = some t := by
    rw [htokens, List.getLast?_concat]
  obtain ⟨afterValue, b, rest, hsite⟩ := exists_site_of_mem (List.mem_of_getLast? hlast)
  refine ⟨⟨before, t, htokens, rfl⟩, ?_, ?_, ?_⟩
  · rw [Tokenized.errorOffset?, if_pos hm, hlast]
    rfl
  · exact (List.getElem?_eq_some_iff.1 hsite.getElem?_start).1
  · change t.kind.label ∈ ["string", "comment", "regex"]
    -- only tokens with an end mark can be broken off
    rcases Token.kind_of_not_closed (not_closed_of_malformed hm hlast) with hk | hk | hk
    all_goals
      rw [hk]
      decide

end

/-- **One report for a malformed script.** No offset of an error is shown for a script exactly when
it is not malformed, and then no complete run over it makes a report. For a malformed script every
complete run makes one report, the one that the script calls for, no matter how many tokens are
asked for. Every script is completed when as many tokens are asked for as it has, or more. -/
theorem complete_run_reports (script : List UInt8) :
    ((tokenize script).errorOffset? = none ↔ (tokenize script).malformed = false) ∧
    ((tokenize script).malformed = false → ∀ d, CompleteRun script d → d.reports = []) ∧
    ((tokenize script).malformed = true →
      ∃ r, Diagnoses script r ∧ ∀ d, CompleteRun script d → d.reports = [r]) ∧
    ∀ n, (tokenize script).tokens.length ≤ n →
      ∃ d, (InPlaceLexer.on script).pulls n = some d ∧ CompleteRun script d := by
  refine ⟨?_, ?_, ?_, fun n hn => exists_completeRun_pulls hn⟩
  · -- a malformed script has a last token, and its offset is shown
    rw [Tokenized.errorOffset?]
    cases (tokenize script).malformed with
    | true => simp
    | false => simp
  · intro hm d hd
    obtain ⟨l', htells, hend⟩ := hd.tells
    exact htells.reports_eq_nil (hend.trans hm)
  · intro hm
    obtain ⟨before, t, htokens⟩ := exists_last_of_malformed hm
    refine ⟨⟨t.span.start, t.kind⟩, diagnoses_last hm htokens, fun d hd => ?_⟩
    obtain ⟨l', htells, hend⟩ := hd.tells
    obtain ⟨before', t', htokens', hreports⟩ := htells.exists_report rfl (hend.trans hm)
    -- there is only one last token
    rw [htokens] at htokens'
    obtain ⟨-, hlast⟩ := List.append_inj' htokens' rfl
    rw [hreports, List.singleton_inj.1 hlast]

/-- The quote behind `=` opens a string that nothing closes. Asked for ten tokens, the lexer in
place gives the three that there are and seven end marks, and one report, at offset 2. -/
theorem reports_of_open_string :
    (tokenize [0x61, 0x3D, 0x27, 0x62]).malformed = true ∧
      (tokenize [0x61, 0x3D, 0x27, 0x62]).tokens.length ≤ 10 ∧
        ∃ d, (InPlaceLexer.on [0x61, 0x3D, 0x27, 0x62]).pulls 10 = some d ∧
          d.reports = [⟨2, .string⟩] := by
  have hm : (tokenize [0x61, 0x3D, 0x27, 0x62]).malformed = true := by decide +kernel
  have hlen : (tokenize [0x61, 0x3D, 0x27, 0x62]).tokens.length ≤ 10 := by decide +kernel
  have hoffset : (tokenize [0x61, 0x3D, 0x27, 0x62]).tokens.getLast? =
      some ⟨.string, ⟨2, 4⟩, [0x27, 0x62]⟩ := by decide +kernel
  obtain ⟨-, -, hreports, hcomplete⟩ := complete_run_reports [0x61, 0x3D, 0x27, 0x62]
  obtain ⟨r, hr, hall⟩ := hreports hm
  obtain ⟨d, hd, hrun⟩ := hcomplete 10 hlen
  obtain ⟨before, t, htokens, rfl⟩ := hr.last
  rw [htokens, List.getLast?_concat] at hoffset
  obtain rfl := Option.some.inj hoffset
  exact ⟨hm, hlen, d, hd, hall d hrun⟩

end PageScan.Script
