import LoxFront.Text.Cluster.Class

/-! # Clusters

A cluster is a run of characters that a reader takes for one.  Whether a character joins the
cluster before it depends on its class and on what the text before it ends in, so a text is cut
into clusters from left to right.  The clusters of a text spell it (`flatten_clusters`).
-/

namespace LoxFront.Text

/-- What a text ends in, as far as it matters for the character that follows: the class of its
    last character, and whether it ends in an odd number of regional letters, in a pictograph with
    what extends it, or in a consonant that is linked to the next. -/
structure Ending where
  last : ClusterClass
  oddRegionals : Bool
  pictograph : Bool
  consonant : Bool
  linked : Bool
deriving DecidableEq, Repr

namespace Ending

/-- The ending of the empty text; everything begins a cluster there. -/
def empty : Ending :=
  ⟨.control, false, false, false, false⟩

def next (e : Ending) (k : ClusterClass) : Ending where
  last := k
  oddRegionals := k = .regional && !e.oddRegionals
  -- A joiner keeps the pictograph in reach for one character only.
  pictograph :=
    match k with
    | .pictograph => true
    | .extender | .linker | .nonJoiner | .joiner => e.pictograph && e.last ≠ .joiner
    | _ => false
  consonant :=
    match k with
    | .consonant => true
    | .extender | .linker | .joiner => e.consonant
    | _ => false
  linked :=
    match k with
    | .linker => e.consonant
    | .extender | .joiner => e.linked
    | _ => false

/-- Whether a character joins the cluster that a text ends in. -/
def joins (e : Ending) (k : ClusterClass) : Bool :=
  if e.last.isControl || k.isControl then e.last = .carriageReturn && k = .lineFeed
  else if k.attaches || e.last = .prepended then true
  else
    match k with
    | .leading => e.last = .leading
    | .openSyllable => e.last = .leading
    | .closedSyllable => e.last = .leading
    | .vowel => e.last = .leading || e.last = .vowel || e.last = .openSyllable
    | .trailing =>
        e.last = .vowel || e.last = .openSyllable || e.last = .trailing || e.last = .closedSyllable
    | .consonant => e.linked
    | .pictograph => e.last = .joiner && e.pictograph
    | .regional => e.oddRegionals
    | _ => false

end Ending

def joinFirst (c : Char) : List (List Char) → List (List Char)
  | [] => [[c]]
  | cluster :: rest => (c :: cluster) :: rest

/-- The clusters of a text that follows one with the ending `e`, the first of them being what joins
    the text before. -/
def clustersAfter (e : Ending) : List Char → List (List Char)
  | [] => []
  | [c] => [[c]]
  | c :: d :: rest =>
      let after := e.next (.ofChar c)
      let others := clustersAfter after (d :: rest)
      if after.joins (.ofChar d) then joinFirst c others else [c] :: others

def clusters (text : List Char) : List (List Char) :=
  clustersAfter .empty text

@[simp] theorem flatten_joinFirst (c : Char) (row : List (List Char)) :
    (joinFirst c row).flatten = c :: row.flatten := by
  cases row <;> simp [joinFirst]

theorem flatten_clustersAfter (e : Ending) (text : List Char) :
    (clustersAfter e text).flatten = text := by
  fun_induction clustersAfter e text with
  | case1 => rfl
  | case2 => rfl
  | case3 e c d rest after others h ih => simp [ih, others]
  | case4 e c d rest after others h ih => simp [ih, others]

theorem flatten_clusters (text : List Char) : (clusters text).flatten = text :=
  flatten_clustersAfter .empty text

end LoxFront.Text
