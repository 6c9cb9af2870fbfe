import Formula.Text.GraphemeBreak

/-
  Texts cut into user-perceived characters: the extended
  grapheme clusters of Unicode.

  Whether a cluster goes on with the next character depends
  on that character and on a few facts about the characters
  before it, which `Joint` keeps.

  Key definitions include:
    * `Grapheme.Joint`
    * `Grapheme.clusters`
-/

namespace Formula

namespace Grapheme

------------------------------------------------------------
-- Joints
------------------------------------------------------------

/-
  What the characters of a cluster so far say about a cut
  after them.  The flags ask whether they end in

    * an odd number of regional letters;
    * a pictograph with its marks, and whether a joiner
      follows it;
    * a consonant with its marks, and whether one of these
      links it to the next.
-/
structure Joint where
  last : BreakClass
  regional : Bool
  pictograph : Bool
  joined : Bool
  consonant : Bool
  linked : Bool

/- A mark that may stand between the parts of a conjunct. -/
def isConjunctMark
    (c : Char) : Bool :=
  (breakClass c = .extend || breakClass c = .joiner) &&
    c != '\u200C'

namespace Joint

/- The joint after the first character of a cluster. -/
def first
    (c : Char) : Joint where
  last := breakClass c
  regional := breakClass c = .regional
  pictograph := isPictograph c
  joined := false
  consonant := isConjunctConsonant c
  linked := false

/- The joint after one more character. -/
def next
    (j : Joint)
    (c : Char) : Joint where
  last := breakClass c
  regional := breakClass c = .regional && !j.regional
  pictograph := isPictograph c ||
    j.pictograph && breakClass c = .extend
  joined := j.pictograph && breakClass c = .joiner
  consonant := isConjunctConsonant c ||
    j.consonant && isConjunctMark c
  linked := j.consonant && isConjunctMark c &&
    (j.linked || isConjunctLinker c)

/- A class that stands alone but for a line break of two. -/
def isolates
    (k : BreakClass) : Bool :=
  k = .control || k = .carriageReturn || k = .lineFeed

/- The parts of a Hangul syllable. -/
def joinsSyllable : BreakClass → BreakClass → Bool
  | .leading, .leading => true
  | .leading, .vowel => true
  | .leading, .openSyllable => true
  | .leading, .closedSyllable => true
  | .openSyllable, .vowel => true
  | .openSyllable, .trailing => true
  | .vowel, .vowel => true
  | .vowel, .trailing => true
  | .closedSyllable, .trailing => true
  | .trailing, .trailing => true
  | _, _ => false

/- The cluster goes on with a character. -/
def joins
    (j : Joint)
    (c : Char) : Bool :=
  let k := breakClass c
  if j.last = .carriageReturn && k = .lineFeed then true
  else if isolates j.last || isolates k then false
  else
    k = .extend || k = .joiner || k = .spacing ||
      j.last = .prepend || joinsSyllable j.last k ||
      j.joined && isPictograph c ||
      j.linked && isConjunctConsonant c ||
      j.regional && k = .regional

end Joint

------------------------------------------------------------
-- Clusters
------------------------------------------------------------

/- Put a character in front of the first cluster. -/
def extendFirst
    (c : Char) : List (List Char) → List (List Char)
  | [] => [[c]]
  | w :: ws => (c :: w) :: ws

/-
  The rest of a cluster that has reached a joint, and the
  clusters after it.
-/
def clustersFrom
    (j : Joint) : List Char → List (List Char)
  | [] => [[]]
  | c :: rest =>
      if j.joins c then
        extendFirst c (clustersFrom (j.next c) rest)
      else
        [] :: extendFirst c (clustersFrom (.first c) rest)

/- The grapheme clusters of a text. -/
def clusters : List Char → List (List Char)
  | [] => []
  | c :: rest =>
      extendFirst c (clustersFrom (.first c) rest)

end Grapheme

end Formula
