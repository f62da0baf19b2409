import Docket.Pattern.Joining
import Docket.Pattern.Size.Layout

/-! The size of patterns: the bytes of the automata that read a text forward and backward. -/

namespace Docket.Pattern.Size

/-- A part that has been laid out. An `open_` one ends in a choice, so that what follows it is one
more way of the choice. -/
structure Piece where
  layout : Layout
  open_ : Bool := false

/-- The bytes that it takes to go on after a piece. -/
def Piece.joint (piece : Piece) : Nat :=
  if piece.open_ then waySize else 0

/-- Goes on after a piece, with the states of other pieces in between. -/
def Piece.after (piece : Piece) (layout : Layout) : Layout :=
  layout.add 0 piece.joint

/-- Ends with a state that all ways lead to. -/
def closed? (layout : Layout) : Option Piece :=
  layout.checked?.map ({ layout := · })

/-- The layout of one part after the other. -/
abbrev Lay := Layout → Option Piece

/-- A part after a piece. -/
def Piece.then? (piece : Piece) (lay : Lay) : Option Piece :=
  match lay piece.layout with
  | some next => some { next with layout := piece.after next.layout }
  | none => none

/-- A part `count` times after a piece. -/
def Piece.repeat? (piece : Piece) (lay : Lay) : Nat → Option Piece
  | 0 => some piece
  | count + 1 =>
    match piece.then? lay with
    | some next => next.repeat? lay count
    | none => none

/-- A part `count` times; a state stands for no part at all. -/
def exactly? (lay : Lay) (count : Nat) (layout : Layout) : Option Piece :=
  match count with
  | 0 => closed? (layout.add 1 0)
  | count + 1 => (lay layout).bind fun piece => piece.repeat? lay count

/-- A choice, and the part that is one of its two ways. -/
def choose? (lay : Lay) (layout : Layout) : Option Piece :=
  lay (layout.add 1 (2 * waySize))

/-- A part up to `count` times after a piece; each time it can be passed. -/
def Piece.upTo? (piece : Piece) (lay : Lay) : Nat → Option Piece
  | 0 => closed? (piece.after piece.layout)
  | count + 1 =>
    match piece.then? (choose? lay) with
    | some next => next.upTo? lay count
    | none => none

/-- A part any number of times. One that may match nothing needs a second choice. -/
def anyNumber? (consumes : Bool) (lay : Lay) (layout : Layout) : Option Piece :=
  if consumes then
    (lay (layout.add 1 waySize)).map fun piece =>
      ⟨piece.after piece.layout, true⟩
  else
    (lay layout).bind fun piece => closed? ((piece.after piece.layout).add 3 (4 * waySize))

/-- A part at least `count` times, with a choice behind the last time. -/
def atLeast? (lay : Lay) (count : Nat) (layout : Layout) : Option Piece :=
  (exactly? lay count layout).bind fun piece =>
    ((piece.after piece.layout).add 1 waySize).checked?.map fun layout => ⟨layout, true⟩

/-- A repetition. -/
def repetition? (consumes : Bool) (lay : Lay) (least : Nat) (most : Option Nat)
    (layout : Layout) : Option Piece :=
  match least, most with
  | 0, some 1 =>
    (choose? lay layout).bind fun piece => closed? ((piece.after piece.layout).add 1 0)
  | 0, none => anyNumber? consumes lay layout
  | least, none => atLeast? lay least layout
  | least, some most =>
    if least = most then exactly? lay least layout
    else
      (exactly? lay least layout).bind fun piece =>
        Piece.upTo? { piece with layout := piece.layout.add 1 0 } lay (most - least)

/-- The texts of alternatives that are all literals. -/
def literals? (parts : List Form) : Option (List Text) :=
  parts.mapM fun
    | .literal text => some text
    | _ => none

mutual

/-- The layout of a form. Forward, groups have a state on either side; backward, parts come in the
opposite order. -/
def lay (backward : Bool) : Form → Lay
  | .empty, layout => closed? (layout.add 1 0)
  | .literal text, layout => closed? (layout.add (textBytes text).length 0)
  | .one set, layout => closed? (laySet backward set layout)
  | .assertion _, layout => closed? (layout.add 1 0)
  | .group _ body, layout =>
    if backward then lay backward body layout
    else (lay backward body (layout.add 1 0)).bind fun piece =>
      closed? ((piece.after piece.layout).add 1 0)
  | .repeated body least most _, layout =>
    repetition? body.consumes (lay backward body) least most layout
  | .sequence parts, layout =>
    if backward then layReversed parts layout else laySequence parts layout
  | .choice parts, layout =>
    match literals? parts with
    | some texts => closed? (layTexts backward texts layout)
    | none => layChoice backward 0 parts layout

/-- The layout of forms one after the other. -/
def laySequence : List Form → Lay
  | [], layout => closed? layout
  | [form], layout => lay false form layout
  | form :: rest, layout => (lay false form layout).bind fun piece => piece.then? (laySequence rest)

/-- The layout of forms from the last one to the first one. -/
def layReversed : List Form → Lay
  | [], layout => closed? layout
  | [form], layout => lay true form layout
  | form :: rest, layout => (layReversed rest layout).bind fun piece => piece.then? (lay true form)

/-- The layout of alternatives, of which `index` have been laid out; the choice itself and its end
come after the second one. -/
def layChoice (backward : Bool) (index : Nat) : List Form → Lay
  | [], layout => closed? layout
  | form :: rest, layout =>
    (lay backward form layout).bind fun piece =>
      layChoice backward (index + 1) rest
        ((piece.after piece.layout).add (if index = 1 then 2 else 0) waySize)

end

mutual

/-- Whether every match of a form begins at the start of the text. -/
def isStartBound : Form → Bool
  | .empty => false
  | .literal _ => false
  | .one _ => false
  | .assertion found => found == .textStart
  | .group _ body => isStartBound body
  | .repeated body least .. => 0 < least && isStartBound body
  | .sequence parts => firstIsBound parts
  | .choice parts => allStartBound parts

/-- Whether one of the parts before any text binds a sequence to the start. -/
def firstIsBound : List Form → Bool
  | [] => false
  | form :: rest => isStartBound form || (form.isIdle && firstIsBound rest)

/-- Whether all alternatives begin at the start. -/
def allStartBound : List Form → Bool
  | [] => true
  | form :: rest => isStartBound form && allStartBound rest

end

mutual

/-- Whether every match of a form ends at the end of the text. -/
def isEndBound : Form → Bool
  | .empty => false
  | .literal _ => false
  | .one _ => false
  | .assertion found => found == .textEnd
  | .group _ body => isEndBound body
  | .repeated body least .. => 0 < least && isEndBound body
  | .sequence parts => lastIsBound parts
  | .choice parts => allEndBound parts

/-- Whether one of the parts behind all text binds a sequence to the end. -/
def lastIsBound : List Form → Bool
  | [] => false
  | form :: rest => (isEndBound form && Form.allIdle rest) || lastIsBound rest

/-- Whether all alternatives end at the end. -/
def allEndBound : List Form → Bool
  | [] => true
  | form :: rest => isEndBound form && allEndBound rest

end

/-- Whether the automaton of a form fits: what passes over the text in front, the form as a group,
and the state that accepts. -/
def fits (backward : Bool) (form : Form) : Bool :=
  let isBound := if backward then isEndBound form else isStartBound form
  let front : Layout := if isBound then ⟨1, 0⟩ else ⟨3, arrowSize + waySize⟩
  let ending := if isBound then 0 else waySize
  (lay backward (.group ⟨0, none⟩ form) front).any fun piece =>
    (((piece.after piece.layout).add 1 ending).checked?).isSome

/-- How many texts a choice must have to be searched for without an automaton. -/
def manyTexts : Nat := 3000

/-- Whether a form is a choice between very many texts. -/
def isTextList : Form → Bool
  | .choice parts => manyTexts ≤ parts.length && (literals? parts).isSome
  | _ => false

/-- Whether a form is small enough to be used. -/
def isAllowed (form : Form) : Bool :=
  isTextList form || (fits false form && fits true form)

end Docket.Pattern.Size
