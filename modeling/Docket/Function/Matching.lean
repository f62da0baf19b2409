import Docket.Function.Editing
import Docket.Pattern.Replacement

/-! Functions that search texts for patterns. -/

namespace Docket.Function

/-- Looks up the pattern in the second argument, and goes on with it. -/
def withPattern (compute : Pattern → List Text → Except Cause Text) (_ : Environment)
    (arguments : List Text) (resources : Resources) : Except Cause Text × Resources :=
  match resources.patterns.lookUp (argument arguments 1) with
  | (some pattern, patterns) => (compute pattern arguments, { resources with patterns })
  -- The cache has counted the miss even where the pattern is none.
  | (none, patterns) => (.error (.argument 1 .invalidPattern), { resources with patterns })

/-- The group that an index selects: groups count from zero, and a pattern without groups has its
whole match at zero. -/
def selectGroup? (pattern : Pattern) (index : Int) : Option Nat :=
  if index < 0 then none
  -- Group zero of a match is the whole match, which an index reaches only if there is no other
  -- group.
  else if 0 < pattern.groupCount then some (index.toNat + 1)
  else if index = 0 then some 0
  else none

/-- What a group of the first match holds. -/
def matched (pattern : Pattern) (index : Int) (text : Text) : Text :=
  ((selectGroup? pattern index).bind fun group =>
    (pattern.match? text).bind (·.group? group)).getD []

/-- A part of the first match of a pattern. -/
def regexpMatch : Function where
  signature := ⟨"REGEXP.MATCH".toList, [need "text", need "pattern",
    .withDefault "index".toList "0".toList], false⟩
  title := "Regular Expression Match".toList
  documentation :=
    ("Returns the first match of `pattern` in `text`. When the pattern has capture " ++
      "groups, `index` selects one of them, `0` being the first group.").toList
  isPure := true
  run := withPattern fun pattern arguments => do
    let index ← match arguments[2]? with
      | some index => integer 2 index
      | none => .ok 0
    return matched pattern index.toInt (firstArgument arguments)

/-- The text with all matches of a pattern replaced. -/
def regexpReplace : Function where
  signature := ⟨"REGEXP.REPLACE".toList, [need "text", need "pattern", need "replacement"], false⟩
  title := "Regular Expression Replace".toList
  documentation :=
    ("Replaces every match of `pattern`. The replacement may refer to groups as `\\1` or " ++
      "`\\g<name>`. An invalid pattern leaves the text unchanged.").toList
  isPure := true
  fallback := firstArgument
  run := withPattern fun pattern arguments =>
    .ok (pattern.replace (firstArgument arguments) (Replacement.translate (argument arguments 2)))

end Docket.Function
