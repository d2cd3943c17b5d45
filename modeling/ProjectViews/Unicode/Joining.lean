/-
Joining: which letters are written in one stroke with their neighbours.

In some scripts a letter takes another form when it is joined to the one before or
after it.  Marks between two letters are passed over.
-/
import ProjectViews.Unicode.Marks

namespace ProjectViews

namespace Unicode

/-- Letters that are joined to both sides. -/
def bothSides : Ranges := .ofText
  "620 626 628 62a-62e 633-63f 641-647 649-64a 66e-66f 679-687 69a-6bf 6c1-6c2 6cc 6ce 6d0-6d1
   6fa-6fc 6ff 712-714 71a-71d 71f-727 729 72b 72d-72e 74e-758 75c-76a 76d-770 772 775-777
   77a-77f 7ca-7ea 841-845 848 84a-853 855 860 862-865 868 886 889-88d 88f 8a0-8a9 8af-8b0
   8b3-8b8 8ba-8c8 1807 1820-1878 1887-18a8 18aa a840-a871 10ac0-10ac4 10ad3-10ad6 10ad8-10adc
   10ade-10ae0 10aeb-10aee 10b80 10b82 10b86-10b88 10b8a-10b8b 10b8d 10b90 10bad-10bae
   10d01-10d21 10d23 10ec3-10ec4 10ec6-10ec7 10f30-10f32 10f34-10f44 10f51-10f53 10f70-10f73
   10f76-10f81 10fb0 10fb2-10fb3 10fb8 10fbb-10fbc 10fbe-10fbf 10fc1 10fc4 10fca 1e922-1e943"

/-- Letters that are joined only to the letter after them. -/
def forwardOnly : Ranges := .ofText
  "a872 10acd 10ad7 10d00 10fcb"

/-- Letters that are joined only to the letter before them. -/
def backwardOnly : Ranges := .ofText
  "622-625 627 629 62f-632 648 671-673 688-699 6c0 6c3-6cb 6cd 6cf 6d2-6d3 6d5 6ee-6ef 710
   715-719 71e 728 72a 72c 72f 74d 759-75b 76b-76c 771 773-774 778-779 840 846-847 849 854
   856-858 867 869-882 88e 8aa-8ac 8ae 8b1-8b2 8b9 10ac5 10ac7 10ac9-10aca 10ace-10ad2 10add
   10ae1 10ae4 10aef 10b81 10b83-10b85 10b89 10b8c 10b8e-10b8f 10b91 10ba9-10bac 10d22 10ec2
   10f33 10f54 10f74-10f75 10fb4-10fb6 10fb9-10fba 10fbd 10fc2-10fc3 10fc9"

/-- Characters that are passed over though they have a direction. -/
def passedOver : Ranges := .ofText
  "cbf cc6 11a07-11a08 11c3f 1e94b"

/-- Marks that are not passed over though they have no direction. -/
def obstacles : Ranges := .ofText
  "1171e"

/-- Whether a letter is joined to the one after it. -/
def joinsForward (c : Char) : Bool := bothSides.contains c || forwardOnly.contains c

/-- Whether a letter is joined to the one before it. -/
def joinsBackward (c : Char) : Bool := bothSides.contains c || backwardOnly.contains c

/-- Whether a character is passed over. -/
def isPassedOver (c : Char) : Bool :=
  passedOver.contains c || (isUnspaced c && !obstacles.contains c)

end Unicode

end ProjectViews
