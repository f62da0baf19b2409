import Docket.Pattern.CharSet
import Std.Data.HashMap

/-! The room that the automaton of a pattern takes: ranges of characters as ranges of the bytes
that encode them, sets as automata over these bytes, and choices between texts as a tree of them. -/

namespace Docket.Pattern.Size

/-- The bytes of one state. -/
def stateSize : Nat := 32

/-- The bytes of one arrow out of a state with several arrows. -/
def arrowSize : Nat := 8

/-- The bytes of one way out of a state that chooses. -/
def waySize : Nat := 4

/-- The bytes that an automaton may take. -/
def limit : Nat := 10 * 0x100000

/-- What has been laid out so far: the states, which are numbered from zero, and the bytes that
they hold besides their own. -/
structure Layout where
  states : Nat := 0
  held : Nat := 0

/-- The bytes of a layout. -/
def Layout.size (layout : Layout) : Nat :=
  stateSize * layout.states + layout.held

/-- A layout with more states, and with more bytes held by them. -/
def Layout.add (layout : Layout) (states held : Nat) : Layout :=
  ⟨layout.states + states, layout.held + held⟩

/-- A layout, if it is not too large. -/
def Layout.checked? (layout : Layout) : Option Layout :=
  if layout.size ≤ limit then some layout else none

/-- Places in a row of bytes: the mixing of numbers into one of `count` places. -/
def place (count : Nat) (numbers : List Nat) : Nat :=
  let mixed := numbers.foldl (fun mixed number =>
    (mixed ^^^ number.toUInt64) * 1099511628211) (14695981039346656037 : UInt64)
  mixed.toNat % count

/-- A closed range of bytes. -/
abbrev ByteRange := Nat × Nat

/-- The number of bytes of a code point in UTF-8. -/
def byteCount (code : Nat) : Nat :=
  if code ≤ 0x7F then 1 else if code ≤ 0x7FF then 2 else if code ≤ 0xFFFF then 3 else 4

/-- The bytes of a code point in UTF-8. -/
def encode (code : Nat) : List Nat :=
  match byteCount code with
  | 1 => [code]
  | 2 => [0xC0 + code / 0x40, 0x80 + code % 0x40]
  | 3 => [0xE0 + code / 0x1000, 0x80 + code / 0x40 % 0x40, 0x80 + code % 0x40]
  | _ => [0xF0 + code / 0x40000, 0x80 + code / 0x1000 % 0x40, 0x80 + code / 0x40 % 0x40,
      0x80 + code % 0x40]

/-- The first code point at which a range has to be cut, so that each part is a product of ranges
of bytes: where the number of bytes changes, or where lower bytes do not run through. -/
def cut? (first last : Nat) : Option Nat :=
  let bounds := [0x80, 0x800, 0x10000].filter fun bound => first < bound && bound ≤ last
  let blocks := [0x40, 0x1000, 0x40000].filterMap fun block =>
    if first / block = last / block || last ≤ 0x7F then none
    else if first % block ≠ 0 then some ((first / block + 1) * block)
    else if last % block ≠ block - 1 then some (last / block * block)
    else none
  (bounds.head?).orElse fun _ => blocks.head?

/-- A range as products of ranges of bytes. Each cut costs one of `fuel`. -/
def products (fuel first last : Nat) : List (List ByteRange) :=
  match fuel, cut? first last with
  | fuel + 1, some middle => products fuel first (middle - 1) ++ products fuel middle last
  | _, _ => [(encode first).zip (encode last)]

/-- A set as products of ranges of bytes, in increasing order. -/
def setProducts (set : CharSet) : List (List ByteRange) :=
  (set.ranges.flatMap CharSet.withoutSurrogates).flatMap fun (first, last) =>
    products 64 first last

/-- The arrows out of a state: a range of bytes, and the state they lead to. -/
abbrev Arrows := List (ByteRange × Nat)

/-- States that can be used again, by their place among a limited number of places. A later state
takes the place of an earlier one. -/
abbrev Known (Key : Type) := Std.HashMap Nat (Key × Nat)

/-- The state of a key, if it still has its place. -/
def Known.find? {Key : Type} [BEq Key] (known : Known Key) (place : Nat) (key : Key) :
    Option Nat :=
  match known[place]? with
  | some (other, state) => if other == key then some state else none
  | none => none

/-- How many places there are for states with arrows. -/
def arrowPlaces : Nat := 10000

/-- How many places there are for states with one arrow, laid out from back to front. -/
def tailPlaces : Nat := 1000

/-- A layout with the states that can be used again. -/
structure Shared (Key : Type) where
  layout : Layout
  known : Known Key := {}

/-- The place of arrows. -/
def arrowPlace (arrows : Arrows) : Nat :=
  place arrowPlaces (arrows.flatMap fun ((first, last), target) => [first, last, target])

/-- The state with some arrows, a known one if possible. -/
def Shared.state (shared : Shared Arrows) (arrows : Arrows) : Nat × Shared Arrows :=
  let place := arrowPlace arrows
  match shared.known.find? place arrows with
  | some state => (state, shared)
  | none =>
    let state := shared.layout.states
    (state, ⟨shared.layout.add 1 (arrowSize * arrows.length),
      shared.known.insert place (arrows, state)⟩)

/-- A state that is still given arrows: those it has, last one first, and the range of the next
one, whose target is not known yet. -/
structure Pending where
  arrows : Arrows := []
  last : Option ByteRange := none

/-- Gives the last arrow its target. -/
def Pending.settle (pending : Pending) (target : Nat) : Pending :=
  match pending.last with
  | some range => ⟨(range, target) :: pending.arrows, none⟩
  | none => pending

/-- Finishes the pending states, deepest first, until `keep` are left above the one that stays
open; the finished ones lead on to `target`. -/
def finish (keep target : Nat) (shared : Shared Arrows) :
    List Pending → List Pending × Shared Arrows
  | [] => ([], shared)
  | pending :: rest =>
    if rest.length ≤ keep then (pending.settle target :: rest, shared)
    else
      let (state, shared) := shared.state (pending.settle target).arrows.reverse
      finish keep state shared rest

/-- How many ranges at the front of a product are those that pending states wait for, the states
given from the first one on. -/
def waitingCount : List ByteRange → List Pending → Nat
  | range :: ranges, pending :: rest =>
    if pending.last == some range then waitingCount ranges rest + 1 else 0
  | _, _ => 0

/-- Adds a product: what it shares with the one before stays pending, the rest of that one is
finished. -/
def addProduct (target : Nat) (pending : List Pending) (shared : Shared Arrows)
    (product : List ByteRange) : List Pending × Shared Arrows :=
  let count := waitingCount product pending.reverse
  match finish count target shared pending, product.drop count with
  | (top :: rest, shared), range :: ranges =>
    let deeper : List Pending := ranges.map fun range => { last := some range }
    (deeper.reverse ++ { top with last := some range } :: rest, shared)
  | (pending, shared), _ => (pending, shared)

/-- A set laid out from the first byte to the last one: after its end comes a tree whose equal
parts are shared. -/
def layForward (products : List (List ByteRange)) (layout : Layout) : Layout :=
  let target := layout.states
  let start : List Pending × Shared Arrows := ([{}], { layout := layout.add 1 0 })
  let (pending, shared) := products.foldl
    (fun (pending, shared) product => addProduct target pending shared product) start
  match finish 0 target shared pending with
  | (root :: _, shared) => (shared.state root.arrows.reverse).2.layout
  | ([], shared) => shared.layout

/-- The state before a range of bytes that leads to a state, a known one if possible. -/
def Shared.stateBefore (shared : Shared (Nat × ByteRange)) (target : Nat) (range : ByteRange) :
    Nat × Shared (Nat × ByteRange) :=
  let place := place tailPlaces [target, range.1, range.2]
  match shared.known.find? place (target, range) with
  | some state => (state, shared)
  | none =>
    let state := shared.layout.states
    (state, ⟨shared.layout.add 1 0, shared.known.insert place ((target, range), state)⟩)

/-- Adds the states of a product that is read from its last byte to its first one. -/
def addBackward (target : Nat) (shared : Shared (Nat × ByteRange)) (product : List ByteRange) :
    Shared (Nat × ByteRange) :=
  let (_, shared) := product.foldl
    (fun (state, shared) range => shared.stateBefore state range) (target, shared)
  { shared with layout := shared.layout.add 0 waySize }

/-- A set laid out from the last byte to the first one: a choice, its end, and the products one
after the other, which share their ends. -/
def layBackward (products : List (List ByteRange)) (layout : Layout) : Layout :=
  let start : Shared (Nat × ByteRange) := { layout := layout.add 2 0 }
  (products.foldl (addBackward (layout.states + 1)) start).layout

/-- The layout of a set. One within ASCII takes a state with an arrow for each of its ranges. -/
def laySet (backward : Bool) (set : CharSet) (layout : Layout) : Layout :=
  if set.isAscii then layout.add 2 (arrowSize * set.ranges.length)
  else if backward then layBackward (setProducts set) layout
  else layForward (setProducts set) layout

/-- A tree of texts. Each text that ends at a node ends the arrows before it: texts that come later
are given arrows of their own, so that the order of the texts is kept. -/
inductive WordTree where
  | node (ended : List (List (Nat × WordTree))) (arrows : List (Nat × WordTree))

namespace WordTree

/-- A tree without texts. -/
def leaf : WordTree :=
  .node [] []

/-- Whether a node has no arrows. -/
def isLeaf : WordTree → Bool
  | .node ended arrows => arrows.isEmpty && ended.all List.isEmpty

/-- Changes the tree behind a byte. -/
def update (byte : Nat) (change : WordTree → WordTree) :
    List (Nat × WordTree) → List (Nat × WordTree)
  | [] => [(byte, change leaf)]
  | (other, tree) :: rest =>
    if other = byte then (byte, change tree) :: rest
    else (other, tree) :: update byte change rest

/-- Adds a text. One that ends where another has ended, and none goes on, is not added again. -/
def insert : List Nat → WordTree → WordTree
  | [], .node ended arrows =>
    if !ended.isEmpty && (node ended arrows).isLeaf then .node ended arrows
    else .node (arrows :: ended) []
  | byte :: rest, .node ended arrows => .node ended (update byte (insert rest) arrows)

/-- The layout of arrows in one state; one arrow alone is part of the state. No arrows take no
state. -/
def layArrows (count : Nat) (layout : Layout) : Layout :=
  match count with
  | 0 => layout
  | 1 => layout.add 1 waySize
  | count => layout.add 1 (arrowSize * count + waySize)

/-- The layout of the ways out of a node: its arrows, and the end for each text that ends there. -/
def layNode (ended : List Nat) (arrows : Nat) (layout : Layout) : Layout :=
  (ended.foldl (fun layout count => layArrows count layout) (layArrows arrows layout)).add 1
    (waySize * ended.length)

mutual

/-- The layout of a tree below its root. -/
def layBelow (layout : Layout) : WordTree → Layout
  | .node ended arrows => layEach (layAll layout ended) arrows

/-- The layout of the trees behind lists of arrows. -/
def layAll (layout : Layout) : List (List (Nat × WordTree)) → Layout
  | [] => layout
  | arrows :: rest => layAll (layEach layout arrows) rest

/-- The layout of the trees behind arrows; leaves are one with the end of the choice. -/
def layEach (layout : Layout) : List (Nat × WordTree) → Layout
  | [] => layout
  | (_, .node ended arrows) :: rest =>
    let layout :=
      if (node ended arrows).isLeaf then layout
      else layNode (ended.map List.length) arrows.length (layEach (layAll layout ended) arrows)
    layEach layout rest

end

/-- The layout of a tree, with the end of the choice in front. -/
def lay (tree : WordTree) (layout : Layout) : Layout :=
  match tree with
  | .node ended arrows =>
    layNode (ended.map List.length) arrows.length (layBelow (layout.add 1 0) tree)

end WordTree

/-- The bytes of a text. -/
def textBytes (text : Text) : List Nat :=
  text.flatMap fun char => encode char.toNat

/-- The layout of a choice between texts. -/
def layTexts (backward : Bool) (texts : List Text) (layout : Layout) : Layout :=
  let tree := texts.foldl (fun tree text =>
    tree.insert (if backward then (textBytes text).reverse else textBytes text)) WordTree.leaf
  tree.lay layout

end Docket.Pattern.Size
