import Symposium.Text.FoldTable

/-!
# Case folding

Two titles match without regard to case when one folded text contains the other. Folding is the
full folding of Unicode, so `ß` and `SS` fold alike.
-/

namespace Symposium.Text

/-- The code points that one code point folds to. -/
def foldCode (code : Nat) : List Nat :=
  match foldExpansions.lookup code with
  | some codes => codes
  | none =>
    match foldRuns.find? (·.covers code) with
    | some run => [((code : Int) + run.shift).toNat]
    | none => [code]

/-- A character list with every character folded. -/
def foldChars (cs : List Char) : List Char :=
  cs.flatMap fun c => (foldCode c.toNat).map Char.ofNat

/-- A text with every character folded. -/
def fold (s : String) : String :=
  String.ofList (foldChars s.toList)

/-- Whether the first list occurs in the second without gaps. -/
def occursIn (needle : List Char) : List Char → Bool
  | [] => needle.isEmpty
  | c :: cs => needle.isPrefixOf (c :: cs) || occursIn needle cs

/-- Whether the folded needle occurs in the folded text. -/
def containsFolded (needle text : String) : Bool :=
  occursIn (foldChars needle.toList) (foldChars text.toList)

end Symposium.Text
