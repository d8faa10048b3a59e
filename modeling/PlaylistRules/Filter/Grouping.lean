/-
This file defines how the text of a filter is taken apart: cut at whole-word
operators outside any group, freed of a leading NOT, or freed of one pair of
delimiters around the whole. A clause is grouped by square brackets, the value
of a field by parentheses. Parentheses also nest within a clause, so that an
operator between the terms of a field stays with its field.
-/

import PlaylistRules.Text.Blank
import PlaylistRules.Filter.Basic

namespace PlaylistRules

open Text

/-- The two kinds of filter text: a clause, or the value of a field. -/
inductive Bracketing where
  | clause
  | value (field : Field)
deriving DecidableEq

namespace Bracketing

/-! ### Delimiters -/

/-- The delimiters of a group. -/
def opener : Bracketing → Char
  | clause => '['
  | value _ => '('

def closer : Bracketing → Char
  | clause => ']'
  | value _ => ')'

/-- Whether a character opens a level of nesting. -/
def opens : Bracketing → Char → Bool
  | clause, character => character == '[' || character == '('
  | value _, character => character == '('

/-- Whether a character closes a level of nesting. -/
def closes : Bracketing → Char → Bool
  | clause, character => character == ']' || character == ')'
  | value _, character => character == ')'

/-- The depth of nesting after a character. Surplus closers leave it at zero. -/
def depthAfter (style : Bracketing) (depth : Nat) (character : Char) : Nat :=
  if style.opens character then depth + 1
  else if style.closes character then depth - 1
  else depth

end Bracketing

/-! ### Cutting at an operator -/

/-- The text after a prefix. -/
def afterPrefix? : (lead : List Char) → (text : List Char) → Option (List Char)
  | [], text => some text
  | _ :: _, [] => none
  | first :: lead, character :: text =>
    if first = character then afterPrefix? lead text else none

/-- Whether the text is at its edge or goes on with a blank. -/
def startsBlank : List Char → Bool
  | [] => true
  | character :: _ => isBlank character

/-- Whether the text starts with the whole word. -/
def startsWithWord (word text : List Char) : Bool :=
  match afterPrefix? word text with
  | some rest => startsBlank rest
  | none => false

/-- Puts a character in front of the first segment. -/
def consFirst (character : Char) : List (List Char) → List (List Char)
  | [] => [[character]]
  | segment :: rest => (character :: segment) :: rest

/-- The segments between the whole-word occurrences of an operator at depth zero.
`atEdge` says that the character before was a blank or none at all, `skipped` how
many characters of an operator are still to be passed over. -/
def segments (style : Bracketing) (word : List Char) :
    (depth : Nat) → (atEdge : Bool) → (skipped : Nat) → List Char → List (List Char)
  | _, _, _, [] => [[]]
  | depth, _, skipped + 1, _ :: rest => segments style word depth false skipped rest
  | depth, atEdge, 0, character :: rest =>
    if !style.opens character && !style.closes character && depth == 0 && atEdge &&
        startsWithWord word (character :: rest) then
      [] :: segments style word depth false (word.length - 1) rest
    else
      consFirst character
        (segments style word (style.depthAfter depth character) (isBlank character) 0 rest)

/-- The trimmed segments of a text that are not empty. -/
def pieces (style : Bracketing) (word : List Char) (text : List Char) : List (List Char) :=
  ((segments style word 0 true 0 text).map trim).filter (!·.isEmpty)

/-! ### Leading negation -/

/-- The text after a leading NOT in any letter case with a blank behind it. -/
def afterNot? : List Char → Option (List Char)
  | first :: second :: third :: blank :: rest =>
    if first.toLower = 'n' && second.toLower = 'o' && third.toLower = 't' && isBlank blank then
      some (trim rest)
    else none
  | _ => none

/-! ### Enclosing delimiters -/

/-- Whether the closers never bring the depth down to zero. -/
def staysOpen (opener closer : Char) : (depth : Nat) → List Char → Bool
  | _, [] => true
  | depth, character :: rest =>
    if character = opener then staysOpen opener closer (depth + 1) rest
    else if character = closer then
      if depth = 1 then false else staysOpen opener closer (depth - 1) rest
    else staysOpen opener closer depth rest

/-- The trimmed text inside one pair of delimiters around the whole text. The
opening delimiter must not be closed before the end. -/
def unwrap? (style : Bracketing) : List Char → Option (List Char)
  | [] => none
  | first :: rest =>
    if first = style.opener && rest.getLast? == some style.closer &&
        staysOpen style.opener style.closer 1 rest.dropLast then
      some (trim rest.dropLast)
    else none

end PlaylistRules
