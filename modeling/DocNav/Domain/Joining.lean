/-
  DocNav.Domain.Joining
  ─────────────────────
  Where the characters may stand that only say how their neighbours join.

  Either may stand after a mark that takes the vowel off a consonant.  The
  one that keeps letters apart may also stand between letters that would
  join.
-/
import DocNav.Domain.Mapping

namespace DocNav.Domain

/-! ## §1. Letters that join. -/

/-- On which sides a letter joins its neighbours. -/
structure Sides where
  /-- It joins the letter before it. -/
  before : Bool
  /-- It joins the letter after it. -/
  after : Bool
  deriving Repr, DecidableEq

/-- The letters that join: on both sides (`D`), only the one before (`R`)
or only the one after (`L`). -/
def joiningText : String :=
  "620:D 622-625:R 626:D 627:R 628:D 629:R 62a-62e:D 62f-632:R 633-63f:D 641-647:D 648:R
   649-64a:D 66e-66f:D 671-673:R 679-687:D 688-699:R 69a-6bf:D 6c0:R 6c1-6c2:D 6c3-6cb:R 6cc:D
   6cd:R 6ce:D 6cf:R 6d0-6d1:D 6d2-6d3:R 6d5:R 6ee-6ef:R 6fa-6fc:D 6ff:D 710:R 712-714:D
   715-719:R 71a-71d:D 71e:R 71f-727:D 728:R 729:D 72a:R 72b:D 72c:R 72d-72e:D 72f-74d:R
   74e-758:D 759-75b:R 75c-76a:D 76b-76c:R 76d-770:D 771:R 772:D 773-774:R 775-777:D 778-779:R
   77a-77f:D 7ca-7ea:D 840:R 841-845:D 846-847:R 848:D 849:R 84a-853:D 854:R 855:D 856-858:R
   860:D 862-865:D 867:R 868:D 869-882:R 886:D 889-88d:D 88e:R 8a0-8a9:D 8aa-8ac:R 8ae:R
   8af-8b0:D 8b1-8b2:R 8b3-8b8:D 8b9:R 8ba-8c8:D 1807:D 1820-1878:D 1887-18aa:D a840-a871:D
   a872:L 10ac0-10ac4:D 10ac5:R 10ac7:R 10ac9-10aca:R 10acd:L 10ace-10ad2:R 10ad3-10ad6:D
   10ad7:L 10ad8-10adc:D 10add:R 10ade-10ae0:D 10ae1:R 10ae4:R 10aeb-10aee:D 10aef:R 10b80:D
   10b81:R 10b82:D 10b83-10b85:R 10b86-10b88:D 10b89:R 10b8a-10b8b:D 10b8c:R 10b8d:D
   10b8e-10b8f:R 10b90:D 10b91:R 10ba9-10bac:R 10bad-10bae:D 10d00:L 10d01-10d21:D 10d22:R
   10d23:D 10f30-10f32:D 10f33:R 10f34-10f44:D 10f51-10f53:D 10f54:R 10f70-10f73:D 10f74-10f75:R
   10f76-10f81:D 10fb0:D 10fb2-10fb3:D 10fb4-10fb6:R 10fb8:D 10fb9-10fba:R 10fbb-10fbc:D 10fbd:R
   10fbe-10fbf:D 10fc1:D 10fc2-10fc3:R 10fc4:D 10fc9:R 10fca:D 10fcb:L 1e922-1e943:D"

/-- The letters that join their neighbours. -/
def joining : CharTable Sides :=
  CharTable.ofText (fun tag => ⟨tag ≠ ['L'], tag ≠ ['R']⟩) joiningText

/-- The letter joins the one after it. -/
def joinsAfter (c : Char) : Bool :=
  match joining.find? c with
  | some s => s.after
  | none => false

/-- The letter joins the one before it. -/
def joinsBefore (c : Char) : Bool :=
  match joining.find? c with
  | some s => s.before
  | none => false

/-! ## §2. Places. -/

/-- The class of the marks that take the vowel off a consonant. -/
def viramaRank : Nat := 9

/-- A joiner may stand between the characters before it, given back to
front, and those after it. -/
def mayStand (joiner : Char) (before after : List Char) : Bool :=
  let virama := match before with
    | c :: _ => Mark.rankOf c == viramaRank
    | [] => false
  let nearest (p : Char → Bool) (cs : List Char) : Bool :=
    match cs.dropWhile Mark.isNonspacing with
    | c :: _ => p c
    | [] => false
  virama || (joiner.toNat == 0x200C && nearest joinsAfter before && nearest joinsBefore after)

/-- Every joiner of a label stands where it may, given the characters
before the label's rest back to front. -/
def joinersFit (before : List Char) : List Char → Bool
  | [] => true
  | c :: after =>
      (!isJoiner c || mayStand c before after) && joinersFit (c :: before) after

end DocNav.Domain
