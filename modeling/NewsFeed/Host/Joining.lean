/-
Joiners: two invisible characters that make the letters around them join or keep them apart.

A joiner is allowed only where it makes a difference (`joinersFit`). That is so behind a mark that
takes the vowel from a letter, since such a mark asks for the next letter to be joined. The
non-joiner is also allowed between two letters that would be joined without it.
-/
import NewsFeed.Text.Mark

namespace NewsFeed.Host

/-- The character that keeps letters apart. -/
def nonJoiner : Char := '\u200c'

/-- The character that joins letters. -/
def joiner : Char := '\u200d'

/-- The letters that join their neighbours: `b` stands for joining the letter before, `a` for the
letter after and `x` for both. Other characters through which letters are joined as if they were not
there, as they are through marks, have the sign `t`. -/
def joiningTable : List String := [
  "620:x 622-625:b 626:x 627:b 628:x 629:b 62a-62e:x 62f-632:b 633-63f:x 641-647:x 648:b 649-64a:x",
  "66e-66f:x 671-673:b 679-687:x 688-699:b 69a-6bf:x 6c0:b 6c1-6c2:x 6c3-6cb:b 6cc:x 6cd:b 6ce:x",
  "6cf:b 6d0-6d1:x 6d2-6d3:b 6d5:b 6ee-6ef:b 6fa-6fc:x 6ff:x 710:b 712-714:x 715-719:b 71a-71d:x",
  "71e:b 71f-727:x 728:b 729:x 72a:b 72b:x 72c:b 72d-72e:x 72f:b 74d:b 74e-758:x 759-75b:b",
  "75c-76a:x 76b-76c:b 76d-770:x 771:b 772:x 773-774:b 775-777:x 778-779:b 77a-77f:x 7ca-7ea:x",
  "840:b 841-845:x 846-847:b 848:x 849:b 84a-853:x 854:b 855:x 856-858:b 860:x 862-865:x 867:b",
  "868:x 869-882:b 886:x 889-88d:x 88e:b 88f:x 8a0-8a9:x 8aa-8ac:b 8ae:b 8af-8b0:x 8b1-8b2:b",
  "8b3-8b8:x 8b9:b 8ba-8c8:x 1807:x 1820-1878:x 1887-18a8:x 18aa:x a840-a871:x a872:a",
  "10ac0-10ac4:x 10ac5:b 10ac7:b 10ac9-10aca:b 10acd:a 10ace-10ad2:b 10ad3-10ad6:x 10ad7:a",
  "10ad8-10adc:x 10add:b 10ade-10ae0:x 10ae1:b 10ae4:b 10aeb-10aee:x 10aef:b 10b80:x 10b81:b",
  "10b82:x 10b83-10b85:b 10b86-10b88:x 10b89:b 10b8a-10b8b:x 10b8c:b 10b8d:x 10b8e-10b8f:b 10b90:x",
  "10b91:b 10ba9-10bac:b 10bad-10bae:x 10d00:a 10d01-10d21:x 10d22:b 10d23:x 10ec2:b 10ec3-10ec4:x",
  "10ec6-10ec7:x 10f30-10f32:x 10f33:b 10f34-10f44:x 10f51-10f53:x 10f54:b 10f70-10f73:x",
  "10f74-10f75:b 10f76-10f81:x 10fb0:x 10fb2-10fb3:x 10fb4-10fb6:b 10fb8:x 10fb9-10fba:b",
  "10fbb-10fbc:x 10fbd:b 10fbe-10fbf:x 10fc1:x 10fc2-10fc3:b 10fc4:x 10fc9:b 10fca:x 10fcb:a",
  "1e922-1e943:x 1e94b:t"]

/-- The rows of the table. -/
def joinings : List Text.Row := Text.readTable joiningTable

/-- The sign of a character in the table. -/
def joiningSign? (c : Char) : Option Char :=
  (joinings.find? (·.covers c)).bind fun row => row.entry[1]?

/-- Whether a letter joins the one before it. -/
def joinsBefore (c : Char) : Bool :=
  joiningSign? c = some 'b' || joiningSign? c = some 'x'

/-- Whether a letter joins the one after it. -/
def joinsAfter (c : Char) : Bool :=
  joiningSign? c = some 'a' || joiningSign? c = some 'x'

/-- Whether letters are joined through a character. -/
def isTransparent (c : Char) : Bool :=
  Text.isNonspacing c || joiningSign? c = some 't'

/-- Whether the first character through which letters are not joined is a letter that joins. -/
def meets (joins : Char → Bool) : List Char → Bool
  | [] => false
  | c :: rest => joins c || (isTransparent c && meets joins rest)

/-- The class of the marks that take the vowel from a letter. -/
def vowellessClass : Nat := 9

/-- Whether a joiner may stand between two texts, of which the first is given backwards. -/
def joinerFits (before : List Char) (c : Char) (after : List Char) : Bool :=
  (before.head?.any fun mark => Text.combiningClass mark = vowellessClass) ||
    (c = nonJoiner && meets joinsAfter before && meets joinsBefore after)

/-- Whether every joiner stands where it may. `before` is what stands in front, backwards. -/
def joinersFit (before : List Char) : List Char → Bool
  | [] => true
  | c :: rest =>
    ((c ≠ nonJoiner && c ≠ joiner) || joinerFits before c rest) && joinersFit (c :: before) rest

end NewsFeed.Host
