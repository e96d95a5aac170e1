import TableTalk.Text.ClusterClass

/-! Clusters: what a reader takes for one character may be several, such as a letter and its marks,
a Korean syllable, a flag, or pictographs joined into one. -/
namespace TableTalk.Text

/-- How far the cluster read so far has got with a conjunct. -/
inductive Conjunct
  | none
  /-- A consonant, and at most marks after it. -/
  | consonant
  /-- A linker came after it, so the next consonant still belongs to it. -/
  | linked
  deriving DecidableEq, Repr

/-- What of a cluster decides whether it goes on. -/
structure ClusterTail where
  last : ClusterClass
  /-- The flag that `last` is a part of lacks its second half. -/
  halfFlag : Bool
  /-- A pictograph and its marks; a joiner may stand last. -/
  picture : Bool
  conjunct : Conjunct
  deriving DecidableEq, Repr

namespace ClusterTail

/-- A cluster of one character. -/
def ofClass (k : ClusterClass) : ClusterTail :=
  ⟨k, k = .regional, k = .pictograph, if k = .consonant then .consonant else .none⟩

/-- Whether a character goes on with the cluster. The first rule that applies decides. -/
def joins (t : ClusterTail) (k : ClusterClass) : Bool :=
  match t.last, k with
  | .carriageReturn, .lineFeed => true
  | .carriageReturn, _ | .lineFeed, _ | .control, _ => false
  | _, .carriageReturn | _, .lineFeed | _, .control => false
  | .lead, .lead | .lead, .vowel | .lead, .openSyllable | .lead, .closedSyllable => true
  | .vowel, .vowel | .vowel, .tail | .openSyllable, .vowel | .openSyllable, .tail => true
  | .tail, .tail | .closedSyllable, .tail => true
  | _, .extend | _, .linker | _, .nonJoiner | _, .joiner | _, .spacing => true
  | .prepend, _ => true
  | _, .consonant => t.conjunct = .linked
  | .joiner, .pictograph => t.picture
  | .regional, .regional => t.halfFlag
  | _, _ => false

/-- The cluster with one more character. -/
def add (t : ClusterTail) (k : ClusterClass) : ClusterTail where
  last := k
  halfFlag := k = .regional && !t.halfFlag
  picture :=
    match k with
    | .pictograph => true
    | .extend | .linker | .nonJoiner | .joiner => t.picture && t.last ≠ .joiner
    | _ => false
  conjunct :=
    match k with
    | .consonant => .consonant
    | .linker => if t.conjunct = .none then .none else .linked
    | .extend | .joiner => t.conjunct
    | _ => .none

end ClusterTail

/-- Goes on from a cluster that is not finished yet, whose characters are reversed. -/
def clustersAfter (t : ClusterTail) (cluster : List Char) : List Char → List (List Char)
  | [] => [cluster.reverse]
  | c :: s =>
    let k := clusterClass c
    if t.joins k then clustersAfter (t.add k) (c :: cluster) s
    else cluster.reverse :: clustersAfter (.ofClass k) [c] s

/-- The clusters of a text, in order. -/
def clusters : List Char → List (List Char)
  | [] => []
  | c :: s => clustersAfter (.ofClass (clusterClass c)) [c] s

theorem clustersAfter_flatten (t : ClusterTail) (cluster s : List Char) :
    (clustersAfter t cluster s).flatten = cluster.reverse ++ s := by
  induction s generalizing t cluster with
  | nil => simp [clustersAfter]
  | cons c s ih =>
    by_cases h : t.joins (clusterClass c) <;> simp [clustersAfter, h, ih]

@[simp] theorem clusters_flatten (s : List Char) : (clusters s).flatten = s := by
  cases s with
  | nil => rfl
  | cons c s => simp [clusters, clustersAfter_flatten]

end TableTalk.Text
