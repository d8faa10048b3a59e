/-
This file defines evaluation of filters against records. Children are visited
from left to right, and AND and OR stop at the first child that decides. The
visitor sees every filter before it is evaluated and carries a state of its own.
-/

import PlaylistRules.Text.LetterCase
import PlaylistRules.Filter.Basic
import PlaylistRules.Record

namespace PlaylistRules.Filter

open Text

/-- Whether the field of a record is the term, letter case aside. -/
def termHolds (field : Field) (term : String) (record : Record) : Bool :=
  match field with
  | .genre => record.genres.names.any (sameFolded · term)
  | .language => record.language.any (sameFolded · term)
  | .contentType => sameFolded record.contentType term

mutual

/-- Evaluates a filter while a visitor looks on. -/
def evaluateWith (visit : Filter → σ → σ) (record : Record) : Filter → σ → Bool × σ
  | all children, state => allHold visit record children (visit (all children) state)
  | any children, state => someHolds visit record children (visit (any children) state)
  | not inner, state =>
    let (holds, state) := evaluateWith visit record inner (visit (not inner) state)
    (!holds, state)
  | group field value, state => evaluateWith visit record value (visit (group field value) state)
  | term field text, state => (termHolds field text record, visit (term field text) state)
  | runtime comparison minutes, state =>
    (comparison.holds record.runtimeOrZero minutes, visit (runtime comparison minutes) state)
  | released comparison year, state =>
    (comparison.holds record.yearOrZero year, visit (released comparison year) state)
  | rating comparison value, state =>
    (comparison.holdsRating record.ratingOrZero value, visit (rating comparison value) state)
  | watched wanted, state => (record.watched == wanted, visit (watched wanted) state)

/-- Whether every child holds, up to the first that does not. -/
def allHold (visit : Filter → σ → σ) (record : Record) : List Filter → σ → Bool × σ
  | [], state => (true, state)
  | child :: rest, state =>
    let (holds, state) := evaluateWith visit record child state
    if holds then allHold visit record rest state else (false, state)

/-- Whether some child holds, up to the first that does. -/
def someHolds (visit : Filter → σ → σ) (record : Record) : List Filter → σ → Bool × σ
  | [], state => (false, state)
  | child :: rest, state =>
    let (holds, state) := evaluateWith visit record child state
    if holds then (true, state) else someHolds visit record rest state

end

/-- Whether a record matches a filter. -/
def evaluate (filter : Filter) (record : Record) : Bool :=
  (evaluateWith (fun _ state => state) record filter ()).1

end PlaylistRules.Filter
