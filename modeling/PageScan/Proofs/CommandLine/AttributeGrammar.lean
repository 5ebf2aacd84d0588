import PageScan.CommandLine.Attribute
import PageScan.Proofs.Text.Trim

/-!
# The grammar of attribute arguments

An argument is parted at its first equals sign (`Splits`). What stands before it is the name with
blanks around (`TrimsTo`), and the name must be one (`IsName`). What stands behind it is the value,
which may be in quotes (`Unquotes`). Each of these is a relation that does not mention how an
argument is read, and for each there is a lemma that the function used for it computes just this
relation. Together they are what an argument denotes, and an argument is read exactly when it
denotes something (`parse_eq_ok_iff`).

That every value can be given follows from the relations: a name holds no equals sign, so that the
first one is where the value begins, and of a value in quotes one pair is taken off and no other.
-/

namespace PageScan.CommandLine

open Text

/-! ### The two parts -/

/-- **An argument in parts:** what stands before its first equals sign and what stands behind. An
argument without one is all name. -/
inductive Splits : List Char → List Char → Option (List Char) → Prop
  | bare {part : List Char} (h : '=' ∉ part) : Splits part part none
  | valued {part after : List Char} (h : '=' ∉ part) :
      Splits (part ++ '=' :: after) part (some after)

variable {cs part : List Char} {after? : Option (List Char)}

theorem all_of_not_mem (h : '=' ∉ part) : ∀ c ∈ part, (c != '=') = true := by
  intro c hc
  rw [bne_iff_ne]
  rintro rfl
  exact h hc

/-- There is one way to part an argument. -/
theorem Splits.eq (h : Splits cs part after?) :
    cs.takeWhile (· != '=') = part ∧ valuePart? cs = after? := by
  cases h with
  | bare h =>
    have hall := all_of_not_mem h
    -- without an equals sign all of it is taken, and nothing is left to be a value
    refine ⟨List.takeWhile_eq_self_iff.2 hall, ?_⟩
    rw [valuePart?, List.dropWhile_eq_nil_iff.2 hall, List.tail?_nil]
  | @valued part after h =>
    have hall := all_of_not_mem h
    constructor
    · rw [List.takeWhile_append_of_pos hall]
      simp
    · rw [valuePart?, List.dropWhile_append_of_pos hall]
      simp

theorem exists_splits (cs : List Char) : ∃ part after?, Splits cs part after? := by
  by_cases h : '=' ∈ cs
  · -- the first of the equals signs parts the argument
    obtain ⟨part, after, rfl, hpart⟩ := List.eq_append_cons_of_mem h
    exact ⟨part, some after, .valued hpart⟩
  · exact ⟨cs, none, .bare h⟩

/-- The two parts are what the reader takes for them. -/
theorem splits_iff :
    Splits cs part after? ↔ cs.takeWhile (· != '=') = part ∧ valuePart? cs = after? := by
  refine ⟨Splits.eq, ?_⟩
  rintro ⟨rfl, rfl⟩
  obtain ⟨part, after?, h⟩ := exists_splits cs
  -- the argument has parts, and there is one way to part it
  obtain ⟨hpart, hafter⟩ := h.eq
  rwa [hpart, hafter]

/-! ### Quotes -/

/-- The two quotes. -/
def quoteMarks : List Char := ['"', '\'']

/-- **A text in quotes:** it has at least two characters, and starts and ends with the same
quote. -/
def InQuotes (cs : List Char) : Prop :=
  2 ≤ cs.length ∧ ∃ quote ∈ quoteMarks, cs.head? = some quote ∧ cs.getLast? = some quote

-- decided by trying the two quotes, and not by a search through all characters
instance : DecidablePred InQuotes := fun cs =>
  decidable_of_iff (2 ≤ cs.length ∧
    quoteMarks.any (fun quote => cs.head? = some quote ∧ cs.getLast? = some quote) = true)
    (by simp [InQuotes])

/-- **What stands in quotes.** Of a text in quotes the outer pair is taken off; any other text is
left as it is. -/
inductive Unquotes : List Char → List Char → Prop
  | quoted {quote : Char} {body : List Char} (hquote : quote ∈ quoteMarks) :
      Unquotes (quote :: (body ++ [quote])) body
  | plain {cs : List Char} (h : ¬InQuotes cs) : Unquotes cs cs

/-- A text in quotes is a quote, a body, and the same quote. -/
theorem inQuotes_iff :
    InQuotes cs ↔ ∃ quote ∈ quoteMarks, ∃ body, cs = quote :: (body ++ [quote]) := by
  constructor
  · rintro ⟨hlen, quote, hquote, hhead, hlast⟩
    obtain ⟨rest, rfl⟩ := List.head?_eq_some_iff.1 hhead
    -- of two characters or more the last one is another than the first
    have hne : rest ≠ [] := by
      rintro rfl
      simp at hlen
    obtain ⟨c, rest, rfl⟩ := List.exists_cons_of_ne_nil hne
    rw [List.getLast?_cons_cons] at hlast
    obtain ⟨body, hbody⟩ := List.getLast?_eq_some_iff.1 hlast
    exact ⟨quote, hquote, body, by rw [hbody]⟩
  · rintro ⟨quote, hquote, body, rfl⟩
    refine ⟨?_, quote, hquote, rfl, ?_⟩
    · simp
    · rw [← List.cons_append, List.getLast?_concat]

/-- One kind of quotes. -/
theorem unquoteBy?_eq_some_iff {quote : Char} {body : List Char} :
    unquoteBy? quote cs = some body ↔ cs = quote :: (body ++ [quote]) := by
  cases cs with
  | nil => simp [unquoteBy?]
  | cons c cs =>
    rw [unquoteBy?, Option.ite_none_right_eq_some]
    constructor
    · rintro ⟨⟨rfl, hlast⟩, hbody⟩
      obtain ⟨body', rfl⟩ := List.getLast?_eq_some_iff.1 hlast
      -- the last character goes, and the body is what was before it
      rw [List.dropLast_concat] at hbody
      rw [Option.some.inj hbody]
    · intro h
      obtain ⟨rfl, rfl⟩ := List.cons.inj h
      exact ⟨⟨rfl, List.getLast?_concat⟩, by rw [List.dropLast_concat]⟩

/-- Neither kind of quotes is taken off a text that is not in quotes. -/
theorem unquoteBy?_of_not_inQuotes {quote : Char} (hquote : quote ∈ quoteMarks)
    (h : ¬InQuotes cs) : unquoteBy? quote cs = none := by
  rw [Option.eq_none_iff_forall_ne_some]
  intro body hbody
  exact h (inQuotes_iff.2 ⟨quote, hquote, body, unquoteBy?_eq_some_iff.1 hbody⟩)

/-- There is one way to take quotes off. -/
theorem Unquotes.unquote_eq {text : List Char} (h : Unquotes cs text) : unquote cs = text := by
  cases h with
  | @quoted quote body hquote =>
    have hpair : unquoteBy? quote (quote :: (text ++ [quote])) = some text :=
      unquoteBy?_eq_some_iff.2 rfl
    rw [unquote]
    rcases List.mem_pair.1 hquote with rfl | rfl
    · rw [hpair, Option.some_or, Option.getD_some]
    · -- the text does not start with the quote that is tried first
      have hother : unquoteBy? '"' ('\'' :: (text ++ ['\''])) = none := by
        simp [unquoteBy?]
      rw [hother, hpair, Option.none_or, Option.getD_some]
  | plain h =>
    rw [unquote, unquoteBy?_of_not_inQuotes (by decide) h,
      unquoteBy?_of_not_inQuotes (by decide) h]
    rfl

/-- What stands in quotes is what the reader takes for it. -/
theorem unquote_eq_iff {text : List Char} : unquote cs = text ↔ Unquotes cs text := by
  refine ⟨?_, Unquotes.unquote_eq⟩
  rintro rfl
  -- a text is in quotes or it is plain, and each way there is one result
  by_cases h : InQuotes cs
  · obtain ⟨quote, hquote, body, rfl⟩ := inQuotes_iff.1 h
    rw [(Unquotes.quoted hquote).unquote_eq]
    exact .quoted hquote
  · rw [(Unquotes.plain h).unquote_eq]
    exact .plain h

/-! ### Arguments -/

/-- **The name of an attribute** is not empty and holds no blank. -/
structure IsName (name : List Char) : Prop where
  nonempty : name ≠ []
  noBlank : ∀ c ∈ name, isBlank c = false

theorem isAttributeName_iff_isName {name : List Char} :
    isAttributeName name = true ↔ IsName name := by
  simp only [isAttributeName, Bool.and_eq_true, Bool.not_eq_true', List.isEmpty_eq_false_iff,
    List.any_eq_false, Bool.not_eq_true]
  exact ⟨fun h => ⟨h.1, h.2⟩, fun h => ⟨h.nonempty, h.noBlank⟩⟩

/-- **What an argument denotes:** a name, which is what trimming leaves of its first part, and where
there is a second part a value, which is that part without quotes around it. -/
def Denotes (arg : String) (a : AttributeArgument) : Prop :=
  ∃ part after?, Splits arg.toList part after? ∧ TrimsTo part a.name.toList ∧
    IsName a.name.toList ∧
      Option.Rel (fun after value => Unquotes after value.toList) after? a.value?

/-- The value is there when the second part is, and is what stands in its quotes. -/
theorem optionRel_unquotes_iff {value? : Option String} :
    Option.Rel (fun after value => Unquotes after value.toList) after? value? ↔
      after?.map (String.ofList ∘ unquote) = value? := by
  constructor
  · intro h
    cases h with
    | none => rfl
    | some hvalue =>
      rw [Option.map_some, Function.comp_apply, hvalue.unquote_eq, String.ofList_toList]
  · rintro rfl
    cases after? with
    | none => exact .none
    | some after =>
      have hvalue : Unquotes after (String.ofList (unquote after)).toList := by
        rw [String.toList_ofList]
        exact unquote_eq_iff.1 rfl
      exact .some hvalue

/-- **An argument is read as what it denotes.** -/
theorem parse_eq_ok_iff {arg : String} {a : AttributeArgument} :
    AttributeArgument.parse arg = .ok a ↔ Denotes arg a := by
  rw [AttributeArgument.parse]
  constructor
  · intro h
    split at h
    · next hname =>
      obtain rfl := Except.ok.inj h
      refine ⟨_, _, splits_iff.2 ⟨rfl, rfl⟩, ?_, ?_, optionRel_unquotes_iff.2 rfl⟩
      · rw [String.toList_ofList]
        exact trimsTo_trim _
      · rw [String.toList_ofList]
        exact isAttributeName_iff_isName.1 hname
    · exact absurd h (by simp)
  · rintro ⟨part, after?, hsplit, htrim, hname, hvalue⟩
    -- an argument can be parted in one way only, so these are the parts that were read
    obtain ⟨rfl, rfl⟩ := splits_iff.1 hsplit
    have hpart : namePart arg.toList = a.name.toList := htrim.trim_eq
    rw [hpart, if_pos (isAttributeName_iff_isName.2 hname), optionRel_unquotes_iff.1 hvalue,
      String.ofList_toList]

/-- An argument that denotes nothing is reported as it is. -/
theorem argument_of_parse_eq_error {arg : String} {e : InvalidAttribute}
    (h : AttributeArgument.parse arg = .error e) : e.argument = arg := by
  rw [AttributeArgument.parse] at h
  split at h
  · exact absurd h (by simp)
  · rw [← Except.error.inj h]

/-! ### Giving names and values -/

/-- A name is trimmed, since it holds no blank at all. -/
theorem IsName.trimsTo {name : List Char} (h : IsName name) : TrimsTo name name :=
  (isTrimmed_of_forall h.noBlank).trimsTo

variable {n : String}

theorem parse_name (hn : IsName n.toList) (heq : '=' ∉ n.toList) :
    AttributeArgument.parse n = .ok ⟨n, none⟩ :=
  parse_eq_ok_iff.2 ⟨_, _, .bare heq, hn.trimsTo, hn, .none⟩

/-- A name and a value are read as they are given, but for the quotes around the value. -/
theorem parse_name_value (hn : IsName n.toList) (heq : '=' ∉ n.toList) {v w : String}
    (hv : Unquotes v.toList w.toList) :
    AttributeArgument.parse (n ++ "=" ++ v) = .ok ⟨n, some w⟩ := by
  -- the name holds no equals sign, so the first one is where the value begins
  have hsplit : Splits (n ++ "=" ++ v).toList n.toList (some v.toList) := by
    rw [String.toList_append, String.toList_append, List.append_assoc]
    exact .valued heq
  exact parse_eq_ok_iff.2 ⟨_, _, hsplit, hn.trimsTo, hn, .some hv⟩

theorem toList_quoted (quote : Char) (v : String) :
    (String.singleton quote ++ v ++ String.singleton quote).toList =
      quote :: (v.toList ++ [quote]) := by
  rw [String.toList_append, String.toList_append, String.toList_singleton]
  rfl

/-- **Attribute arguments.** An argument is read exactly when its first part, without the blanks
around it, is a name, and then it is read as what it denotes; otherwise it is reported as it is.
Every name without an equals sign can be given alone and with every value: in quotes, be they of
either kind, the value is read as it is, whatever it holds, and so is a value that is not in quotes
itself; of one that is, just the outer pair is taken off. -/
theorem parse_grammar :
    (∀ arg, (∃ a, AttributeArgument.parse arg = .ok a) ↔
      ∃ part after? name, Splits arg.toList part after? ∧ TrimsTo part name ∧ IsName name) ∧
    (∀ arg a, AttributeArgument.parse arg = .ok a ↔ Denotes arg a) ∧
    (∀ arg e, AttributeArgument.parse arg = .error e → e.argument = arg) ∧
    ∀ n : String, IsName n.toList → '=' ∉ n.toList →
      AttributeArgument.parse n = .ok ⟨n, none⟩ ∧
      ∀ v : String,
        (∀ quote ∈ quoteMarks,
          AttributeArgument.parse
              (n ++ "=" ++ (String.singleton quote ++ v ++ String.singleton quote)) =
            .ok ⟨n, some v⟩) ∧
        (¬InQuotes v.toList → AttributeArgument.parse (n ++ "=" ++ v) = .ok ⟨n, some v⟩) ∧
        (InQuotes v.toList → ∃ quote ∈ quoteMarks, ∃ body,
          v = String.singleton quote ++ body ++ String.singleton quote ∧
            AttributeArgument.parse (n ++ "=" ++ v) = .ok ⟨n, some body⟩) := by
  refine ⟨?_, fun _ _ => parse_eq_ok_iff, fun _ _ => argument_of_parse_eq_error, ?_⟩
  · intro arg
    simp only [parse_eq_ok_iff]
    constructor
    · rintro ⟨a, part, after?, hsplit, htrim, hname, -⟩
      exact ⟨part, after?, _, hsplit, htrim, hname⟩
    · rintro ⟨part, after?, name, hsplit, htrim, hname⟩
      -- the argument that is read: the name, and the second part as it stands in its quotes
      refine ⟨⟨String.ofList name, after?.map (String.ofList ∘ unquote)⟩, part, after?, hsplit, ?_⟩
      rw [String.toList_ofList]
      exact ⟨htrim, hname, optionRel_unquotes_iff.2 rfl⟩
  · intro n hn heq
    refine ⟨parse_name hn heq, fun v => ⟨?_, ?_, ?_⟩⟩
    · intro quote hquote
      refine parse_name_value hn heq ?_
      rw [toList_quoted]
      exact .quoted hquote
    · exact fun hv => parse_name_value hn heq (.plain hv)
    · intro hv
      obtain ⟨quote, hquote, body, hbody⟩ := inQuotes_iff.1 hv
      -- the value is the quote, the body and the quote
      have hvalue : v = String.singleton quote ++ String.ofList body ++ String.singleton quote := by
        rw [← String.toList_inj, toList_quoted, String.toList_ofList, hbody]
      refine ⟨quote, hquote, String.ofList body, hvalue, parse_name_value hn heq ?_⟩
      rw [hbody, String.toList_ofList]
      exact .quoted hquote

/-- A lone quote is a value of its own, and quotes of the other kind are part of the value. -/
theorem parse_quotes_of_alt :
    AttributeArgument.parse "alt" = .ok ⟨"alt", none⟩ ∧
      AttributeArgument.parse ("alt" ++ "=" ++ "\"") = .ok ⟨"alt", some "\""⟩ ∧
      AttributeArgument.parse
          ("alt" ++ "=" ++ (String.singleton '\'' ++ "\"a=b\" c" ++ String.singleton '\'')) =
        .ok ⟨"alt", some "\"a=b\" c"⟩ ∧
      ∃ quote ∈ quoteMarks, ∃ body,
        "''c''" = String.singleton quote ++ body ++ String.singleton quote ∧
          AttributeArgument.parse ("alt" ++ "=" ++ "''c''") = .ok ⟨"alt", some body⟩ := by
  have halt : IsName "alt".toList := isAttributeName_iff_isName.1 (by decide)
  obtain ⟨hname, hvalue⟩ := parse_grammar.2.2.2 "alt" halt (by decide)
  exact ⟨hname, (hvalue "\"").2.1 (by decide), (hvalue "\"a=b\" c").1 '\'' (by decide),
    (hvalue "''c''").2.2 (by decide)⟩

end PageScan.CommandLine
