import Mathlib.Data.List.Forall2
import PageScan.Proofs.Text.LetterCase
import PageScan.Proofs.Text.Trim
import PageScan.Shell.Command

/-!
# The grammar of commands

A line is a command when, blanks around it aside, it is a dot, right behind the dot a word that
names the command (`IsNamedBy`), and behind the word nothing or a blank and more. What is left of
that when it is trimmed is the argument (`IsArgument`). This is said here by relations that do not
mention how a line is read (`Denotes`), and a line is read as a command with an argument exactly
when it denotes them (`parse_eq_some_iff`). A line that denotes nothing is a script.

## Small letters

Words are compared with the names in small letters. What the small letter of a character beyond
ASCII is, is for Unicode to say: the small spelling of one character may have several, and it may
depend on what stands around it. None of this touches the commands. It is enough that a character of
ASCII has its ASCII small letter, and that the small spelling of any other one has a character that
is in no name (`Lowercases`). The Kelvin sign, whose small letter is the `k` of ASCII, passes since
no name has a `k`; the capital `I` with a dot above passes by the dot that it leaves behind its `i`.
With any such way of making words small the same lines are read as the same commands
(`parseBy_eq_parse`).
-/

namespace PageScan.Shell

open Text

namespace Command

variable {cmd cmd' : Command} {name : String} {word behind rest : List Char}
  {arg : Option String}

/-! ### Names -/

/-- **The words that name a command:** its aliases, without regard to ASCII case. -/
def IsNamedBy (cmd : Command) (word : List Char) : Prop :=
  ∃ name ∈ cmd.aliases, sameName name (String.ofList word) = true

/-- The characters of the names. -/
def letters : List Char := all.flatMap fun cmd => cmd.aliases.flatMap String.toList

theorem mem_all (cmd : Command) : cmd ∈ all := by cases cmd <;> decide

theorem mem_letters (hname : name ∈ cmd.aliases) {c : Char} (hc : c ∈ name.toList) :
    c ∈ letters :=
  List.mem_flatMap.2 ⟨cmd, mem_all cmd, List.mem_flatMap.2 ⟨name, hname, hc⟩⟩

/-- Names are made of small letters of ASCII, and of no blanks. -/
theorem of_mem_letters {c : Char} (hc : c ∈ letters) :
    c.toNat < 128 ∧ c.toLower = c ∧ isBlank c = false := by
  have hall : letters.all (fun c =>
      decide (c.toNat < 128) && (c.toLower == c && !isBlank c)) = true := by
    decide
  simpa using List.all_eq_true.1 hall c hc

/-- Folding a name leaves it as it is. -/
theorem fold_alias (hname : name ∈ cmd.aliases) : fold name = name.toList := by
  calc name.toList.map Char.toLower
      = name.toList.map id :=
        List.map_congr_left fun c hc => (of_mem_letters (mem_letters hname hc)).2.1
    _ = name.toList := List.map_id _

/-- A word names a command when its small letters spell a name. -/
theorem isNamedBy_iff :
    cmd.IsNamedBy word ↔ ∃ name ∈ cmd.aliases, name.toList = word.map Char.toLower := by
  -- names are in small letters already
  refine exists_congr fun name => and_congr_right fun hname => ?_
  rw [sameName_iff, fold_alias hname, fold, String.toList_ofList]

/-- No word names two commands. -/
theorem eq_of_mem_aliases (hname : name ∈ cmd.aliases) (hname' : name ∈ cmd'.aliases) :
    cmd = cmd' := by
  have hall : ∀ c ∈ all, ∀ c' ∈ all, ∀ n ∈ c.aliases, n ∈ c'.aliases → c = c' := by decide
  exact hall cmd (mem_all cmd) cmd' (mem_all cmd') name hname hname'

/-! ### Small spellings -/

/-- The small spelling of a character, as far as it bears on the names. -/
inductive Small : Char → List Char → Prop
  | ascii {c : Char} (hc : c.toNat < 128) : Small c [c.toLower]
  | other {c : Char} {spelling : List Char} (hc : ¬c.toNat < 128)
      (hspelling : ∃ d ∈ spelling, d ∉ letters) : Small c spelling

/-- **A way of making words small** puts the small spellings of a word's characters one behind the
other. -/
def Lowercases (lower : List Char → List Char) : Prop :=
  ∀ word, ∃ spellings, List.Forall₂ Small word spellings ∧ lower word = spellings.flatten

/-- The command that a word names when `lower` makes it small. -/
def ofWordBy? (lower : List Char → List Char) (word : List Char) : Option Command :=
  all.find? fun c => c.aliases.any fun name => name.toList == lower word

/-- Reading a command when `lower` makes its word small. -/
def parseBy (lower : List Char → List Char) (line : String) : Option (Command × Option String) :=
  match trim line.toList with
  | '.' :: rest => (ofWordBy? lower (firstWord rest).1).map (·, argument? (firstWord rest).2)
  | _ => none

variable {lower : List Char → List Char}

/-- A word is read as the command that has its small spelling among the names. -/
theorem ofWordBy?_eq_some_iff :
    ofWordBy? lower word = some cmd ↔ ∃ name ∈ cmd.aliases, name.toList = lower word := by
  have hnames (c : Command) : (c.aliases.any fun name => name.toList == lower word) = true ↔
      ∃ name ∈ c.aliases, name.toList = lower word := by
    simp only [List.any_eq_true, beq_iff_eq]
  constructor
  · intro h
    rw [ofWordBy?] at h
    have hany := List.find?_some h
    exact (hnames cmd).1 hany
  · rintro ⟨name, hname, hsmall⟩
    have hfound : (ofWordBy? lower word).isSome = true :=
      List.find?_isSome.2 ⟨cmd, mem_all cmd, (hnames cmd).2 ⟨name, hname, hsmall⟩⟩
    obtain ⟨cmd', hcmd'⟩ := Option.isSome_iff_exists.1 hfound
    rw [hcmd', Option.some_inj]
    rw [ofWordBy?] at hcmd'
    -- the command found first has the same name, and so it is the same
    have hany := List.find?_some hcmd'
    obtain ⟨name', hname', hsmall'⟩ := (hnames cmd').1 hany
    obtain rfl : name' = name := String.toList_inj.1 (hsmall'.trans hsmall.symm)
    exact eq_of_mem_aliases hname' hname

/-- **Names are read off words** without regard to ASCII case. -/
theorem ofWord?_eq_some_iff : ofWord? word = some cmd ↔ cmd.IsNamedBy word := by
  rw [isNamedBy_iff]
  exact ofWordBy?_eq_some_iff

/-- In ASCII there is one small spelling. -/
theorem flatten_of_ascii {spellings : List (List Char)} (h : List.Forall₂ Small word spellings)
    (hascii : ∀ c ∈ word, c.toNat < 128) : spellings.flatten = word.map Char.toLower := by
  induction h with
  | nil => rfl
  | @cons c spelling word spellings hsmall _ ih =>
    obtain ⟨hc, hword⟩ := List.forall_mem_cons.1 hascii
    cases hsmall with
    | ascii _ => rw [List.flatten_cons, ih hword, List.singleton_append, List.map_cons]
    | other hother _ => exact absurd hc hother

/-- A word beyond ASCII keeps a character that is in no name. -/
theorem exists_mem_flatten {spellings : List (List Char)} (h : List.Forall₂ Small word spellings)
    {c : Char} (hc : c ∈ word) (hother : ¬c.toNat < 128) :
    ∃ d ∈ spellings.flatten, d ∉ letters := by
  induction h with
  | nil => exact absurd hc List.not_mem_nil
  | @cons c' spelling word spellings hsmall _ ih =>
    rw [List.flatten_cons]
    rcases List.mem_cons.1 hc with rfl | hc
    · cases hsmall with
      | ascii hascii => exact absurd hascii hother
      | other _ hspelling =>
        obtain ⟨d, hd, hletter⟩ := hspelling
        exact ⟨d, List.mem_append_left _ hd, hletter⟩
    · obtain ⟨d, hd, hletter⟩ := ih hc
      exact ⟨d, List.mem_append_right _ hd, hletter⟩

/-- What a small spelling has in common with a name, it has from ASCII alone. -/
theorem eq_lower_iff (hlower : Lowercases lower) (hname : name ∈ cmd.aliases) :
    name.toList = lower word ↔
      (∀ c ∈ word, c.toNat < 128) ∧ name.toList = word.map Char.toLower := by
  obtain ⟨spellings, hsmall, heq⟩ := hlower word
  rw [heq]
  by_cases hascii : ∀ c ∈ word, c.toNat < 128
  · rw [flatten_of_ascii hsmall hascii, and_iff_right hascii]
  · obtain ⟨c, hc, hother⟩ : ∃ c ∈ word, ¬c.toNat < 128 := by simpa using hascii
    obtain ⟨d, hd, hletter⟩ := exists_mem_flatten hsmall hc hother
    refine iff_of_false ?_ fun h => hascii h.1
    -- the spelling of `c` has a character that the name does not have
    intro hequal
    exact hletter (mem_letters hname (hequal ▸ hd))

/-- A way that makes each character small by itself. -/
theorem lowercases_flatMap {small : Char → List Char} (h : ∀ c, Small c (small c)) :
    Lowercases (List.flatMap small) := by
  intro word
  refine ⟨word.map small, ?_, List.flatMap_def⟩
  refine List.forall₂_map_right_iff.2 (List.forall₂_same.2 ?_)
  exact fun c _ => h c

/-- The ASCII small letter is a small spelling: beyond ASCII it is the character itself, which is in
no name. -/
theorem small_toLower (c : Char) : Small c [c.toLower] := by
  by_cases hc : c.toNat < 128
  · exact .ascii hc
  · -- beyond ASCII nothing is changed
    refine .other hc ⟨c.toLower, List.mem_singleton_self _, ?_⟩
    rw [toLower_eq_self (by omega)]
    exact fun hletter => hc (of_mem_letters hletter).1

theorem lowercases_toLower : Lowercases (List.map Char.toLower) := by
  have heq : List.map Char.toLower = List.flatMap fun c => [c.toLower] :=
    funext fun _ => List.map_eq_flatMap
  rw [heq]
  exact lowercases_flatMap small_toLower

/-- **Commands do not depend on how words are made small.** -/
theorem parseBy_eq_parse (hlower : Lowercases lower) : parseBy lower = parse := by
  -- the two ways find the same names, since a name is found by ASCII alone
  have hwords : ofWordBy? lower = ofWordBy? (List.map Char.toLower) := by
    funext word
    apply Option.ext
    intro cmd
    rw [ofWordBy?_eq_some_iff, ofWordBy?_eq_some_iff]
    exact exists_congr fun name => and_congr_right fun hname =>
      (eq_lower_iff hlower hname).trans (eq_lower_iff lowercases_toLower hname).symm
  funext line
  -- reading a command is one case of it, the one with the small letters of ASCII
  change parseBy lower line = parseBy (List.map Char.toLower) line
  rw [parseBy, parseBy, hwords]

/-! ### The word and what stands behind it -/

/-- **The word a text begins with:** no character of it is a blank, and it reaches to the first
blank or to the end. -/
inductive BeginsWith : List Char → List Char → List Char → Prop
  | intro {word behind : List Char} (hword : ∀ c ∈ word, isBlank c = false)
      (hbehind : ∀ c ∈ behind.head?, isBlank c = true) : BeginsWith (word ++ behind) word behind

/-- **An argument** is what trimming leaves of the text behind the word, if anything. -/
inductive IsArgument : List Char → Option String → Prop
  | nothing {behind : List Char} (h : TrimsTo behind []) : IsArgument behind none
  | text {behind text : List Char} (h : TrimsTo behind text) (hne : text ≠ []) :
      IsArgument behind (some (String.ofList text))

/-- **A line that is a command,** and its argument. -/
inductive Denotes : List Char → Command → Option String → Prop
  | intro {line rest word behind : List Char} {cmd : Command} {arg : Option String}
      (hline : TrimsTo line ('.' :: rest)) (hrest : BeginsWith rest word behind)
      (hname : cmd.IsNamedBy word) (harg : IsArgument behind arg) : Denotes line cmd arg

/-- The first word of a text is the word it begins with, and what the reader keeps of the rest has
lost the blank. -/
theorem BeginsWith.firstWord_eq (h : BeginsWith rest word behind) :
    firstWord rest = (word, behind.tail?) := by
  cases h with
  | intro hword hbehind =>
    have hinside : ∀ c ∈ word, (!isBlank c) = true := fun c hc => by rw [hword c hc]; rfl
    rw [firstWord, List.takeWhile_append_of_pos hinside, List.dropWhile_append_of_pos hinside]
    cases behind with
    | nil => simp
    | cons c behind => simp [hbehind c rfl]

theorem BeginsWith.head?_behind (h : BeginsWith rest word behind) :
    ∀ c ∈ behind.head?, isBlank c = true := by
  cases h with
  | intro _ hbehind => exact hbehind

theorem exists_beginsWith (cs : List Char) : ∃ word behind, BeginsWith cs word behind := by
  have hword : ∀ c ∈ cs.takeWhile (!isBlank ·), isBlank c = false := by
    intro c hc
    simpa using List.mem_takeWhile_imp hc
  have hbehind : ∀ c ∈ (cs.dropWhile (!isBlank ·)).head?, isBlank c = true := by
    intro c hc
    have hstop := List.head?_dropWhile_not (!isBlank ·) cs
    rw [Option.mem_def.1 hc] at hstop
    simpa using hstop
  have hbegins := BeginsWith.intro hword hbehind
  rw [List.takeWhile_append_dropWhile] at hbegins
  exact ⟨_, _, hbegins⟩

/-- Behind the word the blank that ends it goes with the blanks around the argument. -/
theorem argument?_tail? (hbehind : ∀ c ∈ behind.head?, isBlank c = true) :
    argument? behind.tail? = argument? (some behind) := by
  cases behind with
  | nil => rfl
  | cons c behind =>
    -- the first character behind the word is one more blank in front of the argument
    have hblank : AllBlank [c] := by
      simpa [AllBlank] using hbehind
    have htrim : trim (c :: behind) = trim behind := by
      rw [trim, ← List.singleton_append, trimStart_append hblank, trim]
    simp only [argument?, List.tail?_cons, Option.map_some, htrim]

theorem argument?_some (behind : List Char) : argument? (some behind) =
    if trim behind = [] then none else some (String.ofList (trim behind)) := by
  rw [argument?, Option.map_some, Option.filter_some]
  by_cases hempty : trim behind = []
  · simp [hempty]
  · simp [hempty]

/-- The argument is what the reader takes for it. -/
theorem argument?_some_eq_iff : argument? (some behind) = arg ↔ IsArgument behind arg := by
  rw [argument?_some]
  constructor
  · rintro rfl
    have htrims : TrimsTo behind (trim behind) := trimsTo_trim behind
    split
    · next hempty => exact .nothing (hempty ▸ htrims)
    · next hne => exact .text htrims hne
  · intro h
    cases h with
    | nothing h => rw [h.trim_eq, if_pos rfl]
    | text h hne => rw [h.trim_eq, if_neg hne]

/-- A line with a dot is read by its word and what stands behind it. -/
theorem parse_of_trimsTo {line : String} (hline : TrimsTo line.toList ('.' :: rest))
    (hrest : BeginsWith rest word behind) :
    parse line = (ofWord? word).map (·, argument? (some behind)) := by
  rw [parse, hline.trim_eq]
  simp only [hrest.firstWord_eq, argument?_tail? hrest.head?_behind]

/-- Only a line with a dot is a command. -/
theorem exists_trimsTo_of_parse {line : String} {found : Command × Option String}
    (h : parse line = some found) : ∃ rest, TrimsTo line.toList ('.' :: rest) := by
  rw [parse] at h
  split at h
  · next rest hdot => exact ⟨rest, trim_eq_iff.1 hdot⟩
  · cases h

/-- **A line is read as a command** with an argument exactly when it denotes them. -/
theorem parse_eq_some_iff {line : String} :
    parse line = some (cmd, arg) ↔ Denotes line.toList cmd arg := by
  constructor
  · intro h
    -- the dot is there, then a word, and the rest is the argument
    obtain ⟨rest, hline⟩ := exists_trimsTo_of_parse h
    obtain ⟨word, behind, hrest⟩ := exists_beginsWith rest
    rw [parse_of_trimsTo hline hrest, Option.map_eq_some_iff] at h
    obtain ⟨cmd', hcmd, heq⟩ := h
    obtain ⟨rfl, harg⟩ := Prod.mk.inj heq
    exact .intro hline hrest (ofWord?_eq_some_iff.1 hcmd) (argument?_some_eq_iff.1 harg)
  · intro h
    obtain ⟨hline, hrest, hname, harg⟩ := h
    rw [parse_of_trimsTo hline hrest, ofWord?_eq_some_iff.2 hname, argument?_some_eq_iff.2 harg,
      Option.map_some]

/-- Blanks around a line do not matter. -/
theorem parse_trim (line : String) : parse (String.ofList (trim line.toList)) = parse line := by
  rw [parse, parse, String.toList_ofList, trim_trim]

/-! ### Writing a command -/

/-- Names have no blanks, in whatever case. -/
theorem IsNamedBy.not_isBlank (h : cmd.IsNamedBy word) : ∀ c ∈ word, isBlank c = false := by
  intro c hc
  obtain ⟨name, hname, hsmall⟩ := isNamedBy_iff.1 h
  have hletter : c.toLower ∈ letters := by
    apply mem_letters hname
    rw [hsmall]
    exact List.mem_map_of_mem hc
  -- a blank would stand in a name as well, since it is its own small letter
  rw [← isBlank_toLower]
  exact (of_mem_letters hletter).2.2

/-- **Every command can be given every argument**, with blanks of any kind around and between. -/
theorem denotes_of_parts {before between text after : List Char} (hbefore : AllBlank before)
    (hname : cmd.IsNamedBy word) (hbetween : AllBlank between) (hne : between ≠ [])
    (htext : IsTrimmed text) (hsome : text ≠ []) (hafter : AllBlank after) :
    Denotes (before ++ '.' :: (word ++ (between ++ text)) ++ after) cmd
      (some (String.ofList text)) := by
  -- the line from the dot to the end of the argument neither starts nor ends with a blank
  have hline : IsTrimmed ('.' :: (word ++ (between ++ text))) := by
    constructor
    · rintro c ⟨⟩
      decide
    · rw [← List.cons_append, ← List.append_assoc, List.getLast?_append_of_ne_nil _ hsome]
      exact htext.last
  have hbehind : ∀ c ∈ (between ++ text).head?, isBlank c = true := by
    obtain ⟨c, blanks, rfl⟩ := List.exists_cons_of_ne_nil hne
    rintro c' ⟨⟩
    exact hbetween c List.mem_cons_self
  -- the blanks between belong to neither
  have hargument : TrimsTo (between ++ text) text := by
    have htrims := TrimsTo.intro hbetween htext fun c hc => absurd hc List.not_mem_nil
    rwa [List.append_nil] at htrims
  exact .intro (.intro hbefore hline hafter) (.intro hname.not_isBlank hbehind) hname
    (.text hargument hsome)

/-- **Commands are read exactly.** A line is read as a command with an argument when it denotes
them and never else; blanks around a line do not matter; each command can be written under each of
its names in any case, with blanks of any kind around and between, and is given its argument as it
stands. All of this holds in whatever way words are made small. -/
theorem parse_reads_commands {lower : List Char → List Char} (hlower : Lowercases lower) :
    parseBy lower = parse ∧
      (∀ line cmd arg, parse line = some (cmd, arg) ↔ Denotes line.toList cmd arg) ∧
      (∀ line, parse (String.ofList (trim line.toList)) = parse line) ∧
      ∀ (cmd : Command) (before name word between text after : String),
        AllBlank before.toList → name ∈ cmd.aliases → sameName name word = true →
        AllBlank between.toList → between ≠ "" → IsTrimmed text.toList → text ≠ "" →
        AllBlank after.toList →
        parse (before ++ "." ++ word ++ between ++ text ++ after) = some (cmd, some text) := by
  refine ⟨parseBy_eq_parse hlower, fun _ _ _ => parse_eq_some_iff, parse_trim, ?_⟩
  intro cmd before name word between text after hbefore hname hword hbetween hne htext hsome hafter
  -- the line in the form of its parts
  have hnamed : cmd.IsNamedBy word.toList := ⟨name, hname, by rwa [String.ofList_toList]⟩
  have hdenotes := denotes_of_parts hbefore hnamed hbetween (by simpa using hne) htext
    (by simpa using hsome) hafter
  rw [parse_eq_some_iff]
  simpa using hdenotes

/-- Small spellings, for ASCII and for the two characters beyond it whose small spellings have
letters of ASCII. -/
def smallSpelling (c : Char) : List Char :=
  if c = '\u212a' then ['k'] else if c = '\u0130' then ['i', '\u0307'] else [c.toLower]

/-- The small spellings of the Kelvin sign and of the dotted capital `I` have a character that is in
no name. -/
theorem small_smallSpelling (c : Char) : Small c (smallSpelling c) := by
  unfold smallSpelling
  split
  · next hkelvin => exact .other (by rw [hkelvin]; decide) ⟨'k', by decide, by decide⟩
  · split
    · next hdotted => exact .other (by rw [hdotted]; decide) ⟨'\u0307', by decide, by decide⟩
    · exact small_toLower c

/-- The command to load, in mixed case and with blanks of four kinds around and between. -/
theorem parse_reads_padded_load :
    parseBy (List.flatMap smallSpelling)
        ("\u3000" ++ "." ++ "LoaD" ++ " \t" ++ "my file.js" ++ "\u00a0") =
      some (load, some "my file.js") := by
  obtain ⟨hparse, -, -, hparts⟩ := parse_reads_commands (lowercases_flatMap small_smallSpelling)
  rw [hparse]
  refine hparts load "\u3000" "load" "LoaD" " \t" "my file.js" "\u00a0" ?_ ?_ ?_ ?_ ?_ ?_ ?_ ?_
  · simp [AllBlank, isBlank]
  · decide
  · decide
  · simp [AllBlank, isBlank]
  · decide
  · exact ⟨by simp [isBlank], by simp [isBlank]⟩
  · decide
  · simp [AllBlank, isBlank]

-- the word is looked for right behind the dot
example : parse ". load a.js" = none := by decide

end Command

end PageScan.Shell
