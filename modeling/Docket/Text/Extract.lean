import Docket.Text.Basic
import Docket.Text.Integer

/-! Slices of texts whose bounds may count from the end, parts of texts by counts and positions, and
padding with zeros. -/

namespace Docket.Text

/-- The cut that a bound names in a text of `length` characters: a negative bound counts from the
end, and no cut leaves the text. -/
def cut (bound : Int) (length : Nat) : Nat :=
  if bound < 0 then (Int.ofNat length + bound).toNat else min bound.toNat length

/-- The characters from cut `start` up to cut `stop`; a missing bound is the text's own end. -/
def slice (text : Text) (start stop : Option Int) : Text :=
  let from? := start.map (cut · text.length)
  let until? := stop.map (cut · text.length)
  let first := from?.getD 0
  let last := until?.getD text.length
  (text.drop first).take (last - first)

/-- The first `count` characters; a negative count drops so many from the end. -/
def left (text : Text) (count : Int) : Text :=
  slice text none (some count)

/-- The last `count` characters; a negative count drops so many from the front. -/
def right (text : Text) (count : Int) : Text :=
  -- The smallest count has no opposite in 64 bits. A zero must not become the cut at the front,
  -- behind which the whole text lies.
  if count = 0 then [] else slice text (some (saturate (-count))) none

/-- The characters from position `start` on, where the first one has position one and lower
positions count as one. With a length, the text is cut at the position that the length leads to; a
cut before the front counts from the end. -/
def mid (text : Text) (start : Int) (length : Option Int) : Text :=
  -- Positions count from one, and cuts from zero.
  let first := max start 1 - 1
  slice text (some first) (length.map fun length => saturate (first + length))

/-- How many characters a search passes over; a negative start counts from the end. -/
def passedOver (start : Int) (length : Nat) : Int :=
  if start < 0 then max (Int.ofNat length + start) 0 else start

/-- The position of the first occurrence of `needle` after the characters that are passed over,
where the first character of the text has position one. It is zero if there is none. -/
def position (start : Int) (text needle : Text) : Nat :=
  let passed := passedOver start text.length
  -- A search may start at the very end, where only the empty text is found.
  if Int.ofNat text.length < passed then 0
  else match indexOf? needle (text.drop passed.toNat) with
    | some index => passed.toNat + index + 1
    | none => 0

/-- A text filled up with zeros to `width` characters; a sign stays in front. -/
def zeroFill (width : Nat) (text : Text) : Text :=
  let zeros := List.replicate (width - text.length) '0'
  match text with
  | sign :: digits =>
    if sign == '+' || sign == '-' then sign :: (zeros ++ digits) else zeros ++ text
  | [] => zeros

end Docket.Text
