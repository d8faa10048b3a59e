/-
This file defines lowercasing. A character lowers to one or two characters on
its own. A text lowers character by character, except that a capital sigma at
the end of a word becomes the final sigma. Folding for comparison lowers every
character on its own and so never writes the final sigma.
-/

import PlaylistRules.Text.CaseTable

namespace PlaylistRules.Text

/-! ### One character -/

/-- The lowercase counterpart that the run gives the code point, if it covers it. -/
def CaseRun.lower? (run : CaseRun) (code : Nat) : Option Nat :=
  if run.first ≤ code && code ≤ run.last && (code - run.first) % run.step == 0 then
    some (Int.toNat (code + run.shift))
  else none

/-- The lowercase form of a character. A capital I with a dot above lowers to
two characters, every other character to one. -/
def lower (character : Char) : List Char :=
  let code := character.toNat
  if code < 128 then [character.toLower]
  else if code == 0x130 then ['i', '\u0307']
  else
    match lowercaseRuns.findSome? (·.lower? code) with
    | some lowered => [Char.ofNat lowered]
    | none => [character]

/-- The text with every character lowered on its own. -/
def fold (text : List Char) : List Char :=
  text.flatMap lower

/-- Whether two texts are equal once every character is lowered on its own. -/
def sameFolded (first second : String) : Bool :=
  fold first.toList == fold second.toList

/-! ### Whole texts -/

/-- Whether the first character that is not case-ignorable is cased. -/
def meetsCased (text : List Char) : Bool :=
  match text.dropWhile fun character => inRanges caseIgnorableRanges character.toNat with
  | [] => false
  | character :: _ => inRanges casedRanges character.toNat

/-- A capital sigma between `before` (nearest character first) and `after`:
final when a cased character precedes it and none follows. -/
def lowerSigma (before after : List Char) : Char :=
  if meetsCased before && !meetsCased after then 'ς' else 'σ'

/-- The lowercase form of a text that follows `before` (nearest character first). -/
def lowercaseAfter : (before : List Char) → (text : List Char) → List Char
  | _, [] => []
  | before, character :: rest =>
    (if character = 'Σ' then [lowerSigma before rest] else lower character) ++
      lowercaseAfter (character :: before) rest

/-- The lowercase form of a text. -/
def lowercase (text : String) : String :=
  String.ofList (lowercaseAfter [] text.toList)

end PlaylistRules.Text
