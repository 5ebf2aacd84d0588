import PageScan.Proofs.Script.Beginning
import PageScan.Script.Tokenized

/-!
# Runs of the lexer

What a script's tokens are like is decided token by token, in the state in which the lexer finds
itself at each of them. `Reads l ts l'` says that the lexer goes from `l` to `l'` and gives the
tokens `ts` on its way. Everything that is said here about all tokens of a script is an invariant
along such a run, and the whole script is one run: `reads_tokenize`.

* `Lexer.next?_eq_some_iff` opens one step: there is a token exactly when bytes are left and none
  was malformed, and it is the lexeme that these bytes begin with.
* `Reads.bytes` and `Reads.position` follow the two fields that tell where the lexer stands.
* `Reads.append_iff` cuts a run in two, and `exists_site` finds for each token of a script the state
  in which it was read.

`Tells` is the same relation with the reports that the lexer makes on its way.
-/

namespace PageScan.Script

/-! ### One step -/

namespace Lexer

/-- There is a next token exactly when bytes are left and none was malformed, and it is the lexeme
that these bytes begin with. -/
theorem next?_eq_some_iff {l : Lexer} {p : Pull} :
    l.next? = some p ↔
      ∃ b rest, l.unread = b :: rest ∧ l.malformed = false ∧ p = l.read b rest := by
  unfold next?
  cases hu : l.unread with
  | nil => simp
  | cons b rest =>
    cases hm : l.malformed with
    | false =>
      constructor
      · intro h
        exact ⟨b, rest, rfl, rfl, (Option.some.inj h).symm⟩
      · rintro ⟨b', rest', hb, -, rfl⟩
        obtain ⟨rfl, rfl⟩ := List.cons.inj hb
        rfl
    | true => simp

/-- Nothing is left to read at the end of a script and behind a malformed token. -/
theorem next?_eq_none_iff {l : Lexer} :
    l.next? = none ↔ l.unread = [] ∨ l.malformed = true := by
  unfold next?
  cases hu : l.unread with
  | nil => simp
  | cons b rest => cases hm : l.malformed <;> simp

/-- A token that is read is no end mark. -/
theorem isEnd_next? {l : Lexer} {p : Pull} (h : l.next? = some p) : p.token.isEnd = false := by
  obtain ⟨b, rest, -, -, rfl⟩ := next?_eq_some_iff.1 h
  exact beq_false_of_ne (kind_lexeme_ne_endOfInput l.afterValue b rest)

@[simp] theorem text_read (l : Lexer) (b : UInt8) (rest : List UInt8) :
    (l.read b rest).token.text = (lexeme l.afterValue b rest).text := rfl

@[simp] theorem kind_read (l : Lexer) (b : UInt8) (rest : List UInt8) :
    (l.read b rest).token.kind = (lexeme l.afterValue b rest).kind := rfl

@[simp] theorem start_read (l : Lexer) (b : UInt8) (rest : List UInt8) :
    (l.read b rest).token.span.start = l.position := rfl

@[simp] theorem stop_read (l : Lexer) (b : UInt8) (rest : List UInt8) :
    (l.read b rest).token.span.stop =
      l.position + (lexeme l.afterValue b rest).text.length := rfl

@[simp] theorem unread_read (l : Lexer) (b : UInt8) (rest : List UInt8) :
    (l.read b rest).lexer.unread = (lexeme l.afterValue b rest).rest := rfl

@[simp] theorem position_read (l : Lexer) (b : UInt8) (rest : List UInt8) :
    (l.read b rest).lexer.position =
      l.position + (lexeme l.afterValue b rest).text.length := rfl

@[simp] theorem afterValue_read (l : Lexer) (b : UInt8) (rest : List UInt8) :
    (l.read b rest).lexer.afterValue =
      (lexeme l.afterValue b rest).valueBehind l.afterValue := rfl

@[simp] theorem malformed_read (l : Lexer) (b : UInt8) (rest : List UInt8) :
    (l.read b rest).lexer.malformed = !(lexeme l.afterValue b rest).closed := rfl

end Lexer

/-! ### Runs -/

/-- **A run of the lexer.** From `l` on, the lexer gives the tokens `ts` and then stands at `l'`. -/
inductive Reads : Lexer → List Token → Lexer → Prop
  | done (l : Lexer) : Reads l [] l
  | read {l l' : Lexer} {p : Pull} {ts : List Token} (hp : l.next? = some p)
      (hr : Reads p.lexer ts l') : Reads l (p.token :: ts) l'

namespace Reads

variable {l l' : Lexer} {ts : List Token}

/-- A run without tokens has not moved. -/
theorem nil_iff : Reads l [] l' ↔ l' = l := by
  constructor
  · intro h
    cases h with
    | done => rfl
  · rintro rfl
    exact .done l'

/-- Where there is nothing to read a run ends at once. -/
theorem eq_of_next?_eq_none (h : Reads l ts l') (hl : l.next? = none) : l' = l := by
  cases h with
  | done => rfl
  | read hp _ => exact absurd (hl.symm.trans hp) (by simp)

/-- A run may be cut between any two of its tokens, and two runs may be joined where one stops and
the other starts. -/
theorem append_iff {us : List Token} :
    Reads l (ts ++ us) l' ↔ ∃ m, Reads l ts m ∧ Reads m us l' := by
  constructor
  · intro h
    -- the first part is taken off token by token, since it alone tells where to cut
    induction ts generalizing l with
    | nil => exact ⟨l, .done l, h⟩
    | cons t ts ih =>
      cases h with
      | read hp hr =>
        obtain ⟨m, h₁, h₂⟩ := ih hr
        exact ⟨m, .read hp h₁, h₂⟩
  · rintro ⟨m, h₁, h₂⟩
    induction h₁ with
    | done => exact h₂
    | read hp _ ih => exact .read hp (ih h₂)

/-- A run begins with the next token, and is a run from behind it. -/
theorem cons_iff {t : Token} :
    Reads l (t :: ts) l' ↔ ∃ p, l.next? = some p ∧ p.token = t ∧ Reads p.lexer ts l' := by
  constructor
  · intro h
    cases h with
    | read hp hr => exact ⟨_, hp, rfl, hr⟩
  · rintro ⟨p, hp, rfl, hr⟩
    exact .read hp hr

/-- A run takes bytes off the script and loses none. -/
theorem bytes (h : Reads l ts l') : ts.flatMap (·.text) ++ l'.unread = l.unread := by
  induction h with
  | done => rfl
  | read hp _ ih =>
    -- the first token is a lexeme, which with its rest is what was unread
    obtain ⟨b, rest, hu, -, rfl⟩ := Lexer.next?_eq_some_iff.1 hp
    rw [List.flatMap_cons, List.append_assoc, ih, hu]
    exact lexeme_text_append_rest ..

/-- A run moves the lexer on by the number of bytes of its tokens. -/
theorem position (h : Reads l ts l') :
    l'.position = l.position + (ts.flatMap (·.text)).length := by
  induction h with
  | done => rfl
  | read hp _ ih =>
    obtain ⟨b, rest, -, -, rfl⟩ := Lexer.next?_eq_some_iff.1 hp
    -- the offset behind the first token is the one that the rest of the run starts from
    rw [ih, List.flatMap_cons, List.length_append, Lexer.position_read, Lexer.text_read]
    omega

/-- There is no end mark among the tokens of a run. -/
theorem not_isEnd (h : Reads l ts l') : ∀ t ∈ ts, t.isEnd = false := by
  induction h with
  | done => simp
  | read hnext _ ih =>
    intro t ht
    rcases List.mem_cons.1 ht with rfl | ht
    · exact Lexer.isEnd_next? hnext
    · exact ih t ht

/-- A run stands where its last token stops, or where it began if it has none. -/
theorem position_eq_stop (h : Reads l ts l') :
    l'.position = (ts.getLast?.map (·.span.stop)).getD l.position := by
  induction h with
  | done => rfl
  | @read l l' p ts hp _ ih =>
    obtain ⟨b, rest, -, -, rfl⟩ := Lexer.next?_eq_some_iff.1 hp
    -- the last of the other tokens decides, or the first token if there are no others
    rw [ih, List.getLast?_cons]
    cases ts.getLast? <;> rfl

/-- All tokens of a run stop behind the place where it began. -/
theorem position_lt_stop (h : Reads l ts l') : ∀ t ∈ ts, l.position < t.span.stop := by
  induction h with
  | done => simp
  | @read l l' p ts hp _ ih =>
    obtain ⟨b, rest, -, -, rfl⟩ := Lexer.next?_eq_some_iff.1 hp
    -- a token has a byte at least, so already the first one stops further on
    have hpos := List.length_pos_iff.2 (lexeme_text_ne_nil l.afterValue b rest)
    have hstep : l.position < (l.read b rest).lexer.position := by
      rw [Lexer.position_read]
      omega
    intro t ht
    rcases List.mem_cons.1 ht with rfl | ht
    · exact hstep
    · exact Nat.lt_trans hstep (ih t ht)

/-- Where a run on a script stands, its unread bytes are those behind its position. -/
theorem unread_eq_drop {script : List UInt8} (h : Reads (Lexer.on script) ts l) :
    l.unread = script.drop l.position := by
  have hb : ts.flatMap (·.text) ++ l.unread = script := h.bytes
  have hp : l.position = 0 + (ts.flatMap (·.text)).length := h.position
  rw [hp, Nat.zero_add, ← hb, List.drop_left]

end Reads

/-! ### Runs with their reports -/

/-- **A run and its reports.** From `l` on, the lexer gives the tokens `ts`, makes the reports `rs`
on its way, and then stands at `l'`. -/
inductive Tells : Lexer → List Token → List Malformed → Lexer → Prop
  | done (l : Lexer) : Tells l [] [] l
  | read {l l' : Lexer} {p : Pull} {ts : List Token} {rs : List Malformed}
      (hp : l.next? = some p) (hr : Tells p.lexer ts rs l') :
      Tells l (p.token :: ts) (p.report.toList ++ rs) l'

namespace Tells

variable {l l' : Lexer} {ts : List Token} {rs : List Malformed}

/-- Without its reports it is a run. -/
theorem reads (h : Tells l ts rs l') : Reads l ts l' := by
  induction h with
  | done l => exact .done l
  | read hp _ ih => exact .read hp ih

/-- Two runs in a row are one, with the reports of both. -/
theorem append {m : Lexer} {us : List Token} {qs : List Malformed} (h : Tells l ts rs m)
    (h' : Tells m us qs l') : Tells l (ts ++ us) (rs ++ qs) l' := by
  induction h with
  | done => exact h'
  | read hp _ ih =>
    rw [List.cons_append, List.append_assoc]
    exact .read hp (ih h')

end Tells

/-! ### The runs that the lexer makes -/

namespace Lexer

/-- Reading all tokens is a run. -/
theorem tells_drain (l : Lexer) : Tells l l.drain.tokens l.drain.reports l.drain.lexer := by
  fun_induction drain l with
  | case1 l h => exact .done l
  | case2 l p h ih => exact .read h ih

/-- Reading some tokens is a run. -/
theorem tells_take (n : Nat) (l : Lexer) :
    Tells l (l.take n).tokens (l.take n).reports (l.take n).lexer := by
  fun_induction take n l with
  | case1 l => exact .done l
  | case2 n l h => exact .done l
  | case3 n l p h ih => exact .read h ih

theorem reads_drain (l : Lexer) : Reads l l.drain.tokens l.drain.lexer := l.tells_drain.reads

theorem reads_take (n : Nat) (l : Lexer) : Reads l (l.take n).tokens (l.take n).lexer :=
  (l.tells_take n).reads

/-- Taking some tokens is taking the first of all that are left. -/
theorem tokens_take (n : Nat) (l : Lexer) : (l.take n).tokens = l.drain.tokens.take n := by
  fun_induction take n l with
  | case1 l => rw [List.take_zero]
  | case2 n l h => rw [drain_of_none h, List.take_nil]
  | case3 n l p h ih =>
    rw [drain_of_some h, Run.tokens_cons, Run.tokens_cons, List.take_succ_cons, ih]

/-- Nothing more is to be read behind all tokens. -/
theorem next?_drain (l : Lexer) : l.drain.lexer.next? = none := by
  fun_induction drain l with
  | case1 l h => exact h
  | case2 l p h ih => exact ih

end Lexer

namespace Reads

variable {l l' : Lexer} {ts : List Token}

/-- What is read behind a run completes its tokens to all tokens. -/
theorem tokens_drain (h : Reads l ts l') : l.drain.tokens = ts ++ l'.drain.tokens := by
  induction h with
  | done => rfl
  | read hp _ ih => rw [Lexer.drain_of_some hp, Run.tokens_cons, ih, List.cons_append]

/-- Behind a run the lexer comes to the same end. -/
theorem lexer_drain (h : Reads l ts l') : l.drain.lexer = l'.drain.lexer := by
  induction h with
  | done => rfl
  | read hp _ ih => rw [Lexer.drain_of_some hp, Run.lexer_cons, ih]

end Reads

/-- **A script is one run** from its start to where nothing is left to read. -/
theorem reads_tokenize (script : List UInt8) :
    Reads (Lexer.on script) (tokenize script).tokens (Lexer.on script).drain.lexer :=
  Lexer.reads_drain _

/-- **The site of a token.** Each token of a script was read by a lexer that had read the tokens
before it, as the lexeme that its unread bytes began with; the tokens behind were read after it. -/
theorem exists_site {script : List UInt8} {before behind : List Token} {t : Token}
    (h : (tokenize script).tokens = before ++ t :: behind) :
    ∃ l b rest, Reads (Lexer.on script) before l ∧ l.unread = b :: rest ∧ l.malformed = false ∧
      (l.read b rest).token = t ∧
      Reads (l.read b rest).lexer behind (Lexer.on script).drain.lexer := by
  have hr := reads_tokenize script
  -- the run over the script is cut in front of the token, and the token taken off
  rw [h] at hr
  obtain ⟨l, hbefore, hl⟩ := Reads.append_iff.1 hr
  obtain ⟨p, hp, ht, hbehind⟩ := Reads.cons_iff.1 hl
  obtain ⟨b, rest, hu, hm, rfl⟩ := Lexer.next?_eq_some_iff.1 hp
  exact ⟨l, b, rest, hbefore, hu, hm, ht, hbehind⟩

/-- The site of the last token: the lexer behind it is the one that the whole run leaves. -/
theorem exists_last_site {script : List UInt8} {before : List Token} {t : Token}
    (h : (tokenize script).tokens = before ++ [t]) :
    ∃ l b rest, Reads (Lexer.on script) before l ∧ l.unread = b :: rest ∧ l.malformed = false ∧
      (l.read b rest).token = t ∧ (Lexer.on script).drain.lexer = (l.read b rest).lexer := by
  obtain ⟨l, b, rest, hbefore, hu, hm, ht, hbehind⟩ := exists_site h
  exact ⟨l, b, rest, hbefore, hu, hm, ht, Reads.nil_iff.1 hbehind⟩

/-! ### What a whole script leaves -/

/-- The tokens of a script and the bytes that are left unread make up the script. -/
theorem reconstruct_append_unread (script : List UInt8) :
    (tokenize script).reconstruct ++ (Lexer.on script).drain.lexer.unread = script :=
  (reads_tokenize script).bytes

/-- Without a malformed token the script is read to its end. -/
theorem unread_of_not_malformed {script : List UInt8} (h : (tokenize script).malformed = false) :
    (Lexer.on script).drain.lexer.unread = [] := by
  -- the run has come to an end, for one reason or the other
  rcases Lexer.next?_eq_none_iff.1 (Lexer.next?_drain (Lexer.on script)) with hu | hm
  · exact hu
  · exact absurd (hm.symm.trans h) (by simp)

/-- The malformed token of a script, if there is one: it is the last. -/
def Tokenized.malformedToken? (t : Tokenized) : Option Token :=
  if t.malformed then t.tokens.getLast? else none

/-- Which token is malformed: the last one, if the script is malformed at all. -/
theorem Tokenized.malformedToken?_eq_some_iff {t : Tokenized} {u : Token} :
    t.malformedToken? = some u ↔ t.malformed = true ∧ t.tokens.getLast? = some u := by
  unfold malformedToken?
  cases t.malformed <;> simp

/-- A malformed token is the last of all. -/
theorem exists_last_of_malformed {script : List UInt8} (h : (tokenize script).malformed = true) :
    ∃ before t, (tokenize script).tokens = before ++ [t] := by
  rcases List.eq_nil_or_concat (tokenize script).tokens with hnil | ⟨before, t, ht⟩
  · -- a run without tokens ends where it starts, and there nothing is malformed yet
    have hr := reads_tokenize script
    rw [hnil, Reads.nil_iff] at hr
    rw [tokenize, hr] at h
    exact absurd h Bool.false_ne_true
  · exact ⟨before, t, ht.trans List.concat_eq_append⟩

end PageScan.Script
