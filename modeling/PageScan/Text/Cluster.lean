import PageScan.Text.ClusterRole

/-!
# Clusters of characters

`clusters` cuts a text into what a reader takes for characters: extended grapheme clusters by the
rules of Unicode text segmentation. Whether a character joins the one before it depends on the two
roles and, for flags, pictographs and joined consonants, on what the text before ends with. A
`ClusterTail` knows just that, so one pass from left to right is enough.

No character is lost (`flatten_clusters`).
-/

namespace PageScan.Text

/-- How far a sequence of pictographs has come. -/
inductive PictographTail where
  | none
  /-- a pictograph and its extenders -/
  | extended
  /-- these and a joiner -/
  | joined
  deriving DecidableEq, Repr

/-- How far a pair of joined consonants has come. -/
inductive ConsonantTail where
  | none
  /-- a consonant -/
  | waiting
  /-- a consonant with a linker behind it -/
  | linked
  deriving DecidableEq, Repr

/-- What a text ends with, as far as it matters to the next character. -/
structure ClusterTail where
  role : ClusterRole := .other
  /-- whether the halves of flags at the end are odd in number -/
  halfFlag : Bool := false
  pictograph : PictographTail := .none
  consonant : ConsonantTail := .none
  deriving DecidableEq, Repr

namespace ClusterTail

/-- The sequence of pictographs behind one more character. -/
def nextPictograph (t : ClusterTail) : ClusterRole → PictographTail
  | .pictograph => .extended
  | .extender => if t.pictograph = .extended then .extended else .none
  | .joiner => if t.pictograph = .extended then .joined else .none
  | _ => .none

/-- The pair of consonants behind one more character. -/
def nextConsonant (t : ClusterTail) (c : Char) : ConsonantTail :=
  if isConsonantLinker c then (if t.consonant = .none then .none else .linked)
  else if isLinkTransparent c then t.consonant
  else if ClusterRole.of c = .consonant then .waiting
  else .none

/-- What the text ends with behind one more character. -/
def next (t : ClusterTail) (c : Char) : ClusterTail :=
  let role := ClusterRole.of c
  { role
    halfFlag := role == .regional && !t.halfFlag
    pictograph := t.nextPictograph role
    consonant := t.nextConsonant c }

/-- **Whether a character of the given role joins** the cluster at the end of the text. -/
def joins (t : ClusterTail) (role : ClusterRole) : Bool :=
  match t.role, role with
  | .carriageReturn, .lineFeed => true
  | .carriageReturn, _ | .lineFeed, _ | .control, _ => false
  | _, .carriageReturn | _, .lineFeed | _, .control => false
  | _, .extender | _, .joiner | _, .spacing => true
  | .prepended, _ => true
  | .initialJamo, .initialJamo | .initialJamo, .vowelJamo => true
  | .initialJamo, .openSyllable | .initialJamo, .closedSyllable => true
  | .openSyllable, .vowelJamo | .openSyllable, .finalJamo => true
  | .vowelJamo, .vowelJamo | .vowelJamo, .finalJamo => true
  | .closedSyllable, .finalJamo | .finalJamo, .finalJamo => true
  | _, .consonant => t.consonant == .linked
  | .joiner, .pictograph => t.pictograph == .joined
  | .regional, .regional => t.halfFlag
  | _, _ => false

end ClusterTail

/-- The characters that join the cluster at the end of a text, and the clusters behind it. -/
def clustersBehind (t : ClusterTail) : List Char → List Char × List (List Char)
  | [] => ([], [])
  | c :: cs =>
    let (own, others) := clustersBehind (t.next c) cs
    if t.joins (.of c) then (c :: own, others) else ([], (c :: own) :: others)

/-- **The clusters of a text.** -/
def clusters : List Char → List (List Char)
  | [] => []
  | c :: cs =>
    let (own, others) := clustersBehind (({} : ClusterTail).next c) cs
    (c :: own) :: others

theorem clustersBehind_append_flatten (t : ClusterTail) (cs : List Char) :
    (clustersBehind t cs).1 ++ (clustersBehind t cs).2.flatten = cs := by
  induction cs generalizing t with
  | nil => rfl
  | cons c cs ih =>
    have h := ih (t.next c)
    rw [clustersBehind]
    dsimp only
    split <;> simp [h]

/-- The clusters of a text in a row are the text. -/
@[simp] theorem flatten_clusters (cs : List Char) : (clusters cs).flatten = cs := by
  cases cs with
  | nil => rfl
  | cons c cs => simp [clusters, clustersBehind_append_flatten]

end PageScan.Text
