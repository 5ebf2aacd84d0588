import PageScan.Text.Blank

/-!
# Categories of resources

The category of a resource tells a page filter what to do with its address: scripts may be minified,
images inlined, hyperlinks left alone. `Category.parse` reads a category's name as a person writes
it: blanks around it, the case of ASCII letters, and `_` for `-` make no difference.
-/

namespace PageScan.Html

/-- What kind of resource an attribute refers to. -/
inductive Category where
  /-- a link to follow or a form to send -/
  | hyperlink
  | script
  /-- an image, icons and backgrounds included -/
  | image
  | stylesheet
  /-- something to fetch or resolve ahead of time -/
  | prefetch
  /-- media, frames, manifests and whatever else a page fetches -/
  | otherResource
  /-- no category; never the category of a resource that was found -/
  | undefined
  deriving DecidableEq, Repr

/-- Without more to go on, a resource has no category. -/
instance : Inhabited Category := ⟨.undefined⟩

/-- A name that no category has. -/
structure UnknownCategory where
  name : String
  deriving DecidableEq, Repr

/-- The text that reports the unknown name. -/
def UnknownCategory.message (e : UnknownCategory) : String :=
  "unknown resource category '" ++ e.name ++ "'"

namespace Category

/-- Every category. -/
def all : List Category :=
  [hyperlink, script, image, stylesheet, prefetch, otherResource, undefined]

theorem mem_all (c : Category) : c ∈ all := by cases c <;> decide

/-- The name of a category. -/
def spelling : Category → String
  | hyperlink => "hyperlink"
  | script => "script"
  | image => "image"
  | stylesheet => "stylesheet"
  | prefetch => "prefetch"
  | otherResource => "other-resource"
  | undefined => "undefined"

/-- Whether this is a category at all. -/
def isDefined (c : Category) : Bool := c != undefined

/-- A character of a name as names are compared: small letters, and a hyphen for an underscore. -/
def normalChar (c : Char) : Char := if c = '_' then '-' else c.toLower

/-- A name as names are compared. -/
def normalize (s : String) : List Char := (Text.trim s.toList).map normalChar

/-- The category with the given name. -/
def ofName? (s : String) : Option Category :=
  all.find? (·.spelling.toList == normalize s)

@[simp] theorem ofName?_spelling (c : Category) : ofName? c.spelling = some c := by
  cases c <;> decide +kernel

/-- **Reading a category's name.** -/
def parse (s : String) : Except UnknownCategory Category :=
  match ofName? s with
  | some c => .ok c
  | none => .error ⟨s⟩

theorem parse_eq_ok_iff {s : String} {c : Category} : parse s = .ok c ↔ ofName? s = some c := by
  unfold parse
  cases ofName? s <;> simp

theorem parse_eq_error_iff {s : String} {e : UnknownCategory} :
    parse s = .error e ↔ ofName? s = none ∧ e = ⟨s⟩ := by
  unfold parse
  cases ofName? s <;> simp [eq_comm]

/-- Every category is read back from its own name. -/
@[simp] theorem parse_spelling (c : Category) : parse c.spelling = .ok c := by simp [parse]

end Category

end PageScan.Html
