import PageScan.Text.Alphanumeric
import PageScan.Text.Blank
import PageScan.Text.Pieces

/-!
# Log filters

What the program reports is governed by a filter: directives between commas. A directive names a
level for everything (`warn`), a target that reports everything (`inflight`), or a level for a
target (`inflight=warn`). A target stands for all that begin with it; of the directives that apply
to a report the one with the longest target decides, and of two for the same target the later.
A report that no directive applies to is hidden. A filter without directives shows errors only.

In brackets a directive may name a span, a field with a value, or a field alone. The first two bind
it to spans, and it does not apply to reports outside of them. A field alone binds it to reports
with that field, and makes it decide before a directive for the same target without a field.
-/

namespace PageScan.LogFilter

/-- How much is reported. -/
inductive Level where
  | off
  | error
  | warn
  | info
  | debug
  | trace
  deriving DecidableEq, Repr

namespace Level

/-- The levels in order, each showing more than the one before. -/
def all : List Level := [off, error, warn, info, debug, trace]

/-- The place of a level in the order. -/
def rank : Level → Nat
  | off => 0
  | error => 1
  | warn => 2
  | info => 3
  | debug => 4
  | trace => 5

/-- The name of a level. -/
def name : Level → String
  | off => "off"
  | error => "error"
  | warn => "warn"
  | info => "info"
  | debug => "debug"
  | trace => "trace"

/-- The number that digits stand for, perhaps behind a plus sign. -/
def number? (word : List Char) : Option Nat :=
  let digits := if word.head? = some '+' then word.tail else word
  if digits.isEmpty || !digits.all Char.isDigit then none
  else some (digits.foldl (fun n c => n * 10 + (c.toNat - '0'.toNat)) 0)

/-- The level that a word names in any ASCII case, or gives by its rank. No word at all stands for
errors. -/
def ofWord? (word : List Char) : Option Level :=
  if word.isEmpty then some error
  else all.find? fun l =>
    number? word == some l.rank || l.name.toList == word.map Char.toLower

end Level

/-- One directive: the target and the field it applies to, everything for want of them, and the
level. -/
structure Directive where
  target : List Char := []
  field? : Option (List Char) := none
  withinSpans : Bool := false
  level : Level := .trace
  deriving DecidableEq, Repr

/-! ### Reading

A directive is read without the blanks around it, but its words are taken from the text with the
blanks: `whole` is that text and `bare` the text without them, from the same place on. A blank in
front of a directive so moves all its words. -/

/-- Reads the level behind an equals sign; everything is shown for want of one. -/
def Directive.withLevel? (d : Directive) (word : List Char) : Option Directive :=
  if word.isEmpty then some d else (Level.ofWord? word).map fun level => { d with level }

/-- Reads what follows a closing bracket. -/
def Directive.closed? (d : Directive) (bare whole : List Char) : Option Directive :=
  match bare with
  | [] => some d
  | '=' :: _ => d.withLevel? (whole.drop 1)
  | _ => none

/-- Takes a field into a directive. A field with a value is looked for in spans only. -/
def Directive.withField? (d : Directive) (text : List Char) : Option Directive :=
  if text.isEmpty then none
  else if text.contains '=' then some { d with withinSpans := true }
  else some { d with field? := some text }

/-- Reads a directive from behind an opening bracket. -/
def Directive.bracketed? (d : Directive) (bare whole : List Char) : Option Directive :=
  let n := (bare.takeWhile fun c => c != ']' && c != '\x7b').length
  match bare.drop n with
  | ']' :: behind =>
    { d with withinSpans := true }.closed? behind (whole.drop (n + 1))
  | '\x7b' :: behind => do
    let m := (behind.takeWhile (· != '\x7d')).length
    let inside := whole.drop (n + 1)
    let d ← { d with withinSpans := n != 0 }.withField? (inside.take m)
    match behind.drop m with
    | '\x7d' :: ']' :: rest => d.closed? rest (inside.drop (m + 2))
    | _ => none
  | _ => none

/-- The characters that a target may begin with. -/
def isTargetStart (c : Char) : Bool :=
  Text.isAlphanumeric c || c == '_' || c == ':' || c == '-'

/-- Reads a directive that begins with a word: a level or a target. -/
def Directive.named? (bare whole : List Char) : Option Directive :=
  let n := (bare.takeWhile fun c => c != '=' && c != '[').length
  match bare.drop n with
  | '=' :: _ => { target := whole.take n : Directive }.withLevel? (whole.drop (n + 1))
  | '[' :: behind => { target := whole.take n : Directive }.bracketed? behind (whole.drop (n + 1))
  | _ =>
    match Level.ofWord? whole with
    | some level => some { level }
    | none => some { target := whole }

/-- **Reading a directive.** -/
def Directive.parse? (whole : List Char) : Option Directive :=
  match Text.trim whole with
  | '[' :: bare => ({} : Directive).bracketed? bare (whole.drop 1)
  | c :: bare => if isTargetStart c then named? (c :: bare) whole else none
  | [] => none

/-- **Reading a filter.** -/
def parse? (filter : String) : Option (List Directive) :=
  ((Text.pieces ',' filter.toList).filter (!·.isEmpty)).mapM Directive.parse?

/-! ### What a filter shows -/

/-- A report, as far as filters look at it. -/
structure Report where
  level : Level
  target : String
  fields : List String

/-- Whether a directive applies to a report outside of spans. -/
def Directive.appliesTo (d : Directive) (r : Report) : Bool :=
  !d.withinSpans && d.target.isPrefixOf r.target.toList &&
    d.field?.all fun f => r.fields.any (·.toList == f)

/-- Whether a directive gives way to a later one: to one with a longer target, or to one for the
same target that does not look at fewer fields. Of two fields the one later in the alphabet wins. -/
def Directive.yieldsTo (d later : Directive) : Bool :=
  if d.target.length = later.target.length then
    match d.field?, later.field? with
    | none, _ => true
    | some _, none => false
    | some f, some g => !g.lex f fun a b => a.toNat.blt b.toNat
  else d.target.length < later.target.length

/-- The directive that decides on a report. -/
def deciding? (filter : List Directive) (r : Report) : Option Directive :=
  (filter.filter (·.appliesTo r)).foldl
    (fun best d =>
      match best with
      | some b => if b.yieldsTo d then some d else some b
      | none => some d)
    none

/-- **Whether a filter shows a report.** -/
def shows (filter : List Directive) (r : Report) : Bool :=
  if filter.isEmpty then r.level.rank ≤ Level.error.rank
  else (deciding? filter r).any fun d => r.level.rank ≤ d.level.rank

/-- The filter in force: the first of the given ones that can be read, warnings for want of one. -/
def inForce (filters : List String) : List Directive :=
  (filters.findSome? parse?).getD [{ level := .warn }]

end PageScan.LogFilter
