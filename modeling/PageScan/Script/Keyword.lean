import PageScan.Text.Utf8

/-!
# Reserved words of JavaScript

A `Keyword` is one of the forty-five words that the language reserves. Two facts about a keyword
matter beside its spelling: whether it is itself a value, which decides how a following slash is
read, and whether it is reserved in strict code only, which decides how it is painted.

`Keyword.ofBytes?` recognises a keyword by its exact spelling. Each spelling finds its own keyword
(`Keyword.ofBytes?_bytes`), so no two keywords share one (`Keyword.bytes_injective`), and bytes are
recognised only as the keyword that they spell (`Keyword.ofBytes?_eq_some_iff`).
-/

namespace PageScan.Script

/-- A reserved word. -/
inductive Keyword where
  | breakKw
  | caseKw
  | catchKw
  | classKw
  | constKw
  | continueKw
  | debuggerKw
  | defaultKw
  | deleteKw
  | doKw
  | elseKw
  | enumKw
  | exportKw
  | extendsKw
  | falseKw
  | finallyKw
  | forKw
  | functionKw
  | ifKw
  | implementsKw
  | importKw
  | inKw
  | instanceofKw
  | interfaceKw
  | letKw
  | newKw
  | nullKw
  | packageKw
  | privateKw
  | protectedKw
  | publicKw
  | returnKw
  | staticKw
  | superKw
  | switchKw
  | thisKw
  | throwKw
  | trueKw
  | tryKw
  | typeofKw
  | varKw
  | voidKw
  | whileKw
  | withKw
  | yieldKw
  deriving DecidableEq, Repr

namespace Keyword

/-- Every keyword, in alphabetical order of the spellings. -/
def all : List Keyword :=
  [breakKw, caseKw, catchKw, classKw, constKw, continueKw, debuggerKw, defaultKw, deleteKw, doKw,
  elseKw, enumKw, exportKw, extendsKw, falseKw, finallyKw, forKw, functionKw, ifKw, implementsKw,
  importKw, inKw, instanceofKw, interfaceKw, letKw, newKw, nullKw, packageKw, privateKw,
  protectedKw, publicKw, returnKw, staticKw, superKw, switchKw, thisKw, throwKw, trueKw, tryKw,
  typeofKw, varKw, voidKw, whileKw, withKw, yieldKw]

theorem mem_all (k : Keyword) : k ∈ all := by cases k <;> decide

/-- The word as it is written in a script. -/
def spelling : Keyword → String
  | breakKw => "break"
  | caseKw => "case"
  | catchKw => "catch"
  | classKw => "class"
  | constKw => "const"
  | continueKw => "continue"
  | debuggerKw => "debugger"
  | defaultKw => "default"
  | deleteKw => "delete"
  | doKw => "do"
  | elseKw => "else"
  | enumKw => "enum"
  | exportKw => "export"
  | extendsKw => "extends"
  | falseKw => "false"
  | finallyKw => "finally"
  | forKw => "for"
  | functionKw => "function"
  | ifKw => "if"
  | implementsKw => "implements"
  | importKw => "import"
  | inKw => "in"
  | instanceofKw => "instanceof"
  | interfaceKw => "interface"
  | letKw => "let"
  | newKw => "new"
  | nullKw => "null"
  | packageKw => "package"
  | privateKw => "private"
  | protectedKw => "protected"
  | publicKw => "public"
  | returnKw => "return"
  | staticKw => "static"
  | superKw => "super"
  | switchKw => "switch"
  | thisKw => "this"
  | throwKw => "throw"
  | trueKw => "true"
  | tryKw => "try"
  | typeofKw => "typeof"
  | varKw => "var"
  | voidKw => "void"
  | whileKw => "while"
  | withKw => "with"
  | yieldKw => "yield"

/-- The bytes of the spelling. -/
def bytes (k : Keyword) : List UInt8 := Text.bytes k.spelling

/-- **Value keywords.** The keywords that can end a value, so that a slash behind one divides. -/
def isValue : Keyword → Bool
  | thisKw | trueKw | falseKw | nullKw => true
  | _ => false

/-- The keywords that only strict code reserves. -/
def isStrictReserved : Keyword → Bool
  | implementsKw | interfaceKw | letKw | packageKw | privateKw | protectedKw | publicKw
  | staticKw | yieldKw => true
  | _ => false

/-- The keyword spelled by the given bytes; the case of letters counts. -/
def ofBytes? (bs : List UInt8) : Option Keyword := all.find? (·.bytes == bs)

@[simp] theorem ofBytes?_bytes (k : Keyword) : ofBytes? k.bytes = some k := by
  have h : (all.all fun k => ofBytes? k.bytes == some k) = true := by decide +kernel
  exact eq_of_beq (List.all_eq_true.1 h k (mem_all k))

theorem bytes_injective {a b : Keyword} (h : a.bytes = b.bytes) : a = b := by
  have hab : some a = some b := by rw [← ofBytes?_bytes a, ← ofBytes?_bytes b, h]
  exact Option.some.inj hab

theorem ofBytes?_eq_some_iff {bs : List UInt8} {k : Keyword} :
    ofBytes? bs = some k ↔ bs = k.bytes := by
  constructor
  · intro h
    unfold ofBytes? at h
    have hk := List.find?_some h
    exact (eq_of_beq hk).symm
  · rintro rfl
    exact ofBytes?_bytes k

end Keyword

end PageScan.Script
