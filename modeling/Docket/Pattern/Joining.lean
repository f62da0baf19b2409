import Docket.Pattern.Form

/-! Forms put together: what a sequence and a choice come to when they are written as simply as
they can be. -/

namespace Docket

/-- The only character of a set that has one. -/
def CharSet.single? (set : CharSet) : Option Char :=
  match set.ranges with
  | [(first, last)] => if first = last then some (Char.ofNat first) else none
  | _ => none

namespace Pattern.Form

/-- One character of a set; a single one stands for itself. -/
def ofSet (set : CharSet) : Form :=
  match set.single? with
  | some char => literal [char]
  | none => one set

/-- The parts of a form as a sequence. -/
def sequenceParts : Form → List Form
  | empty => []
  | sequence parts => parts
  | form => [form]

/-- The alternatives of a form. -/
def choiceParts : Form → List Form
  | choice parts => parts
  | form => [form]

/-- Puts a part in front of a sequence; literals that meet become one. -/
def precede : Form → List Form → List Form
  | literal text, literal more :: rest => literal (text ++ more) :: rest
  | form, rest => form :: rest

/-- Forms in a row: nested sequences are opened, and what is empty is left out. -/
def joined (forms : List Form) : Form :=
  match (forms.flatMap sequenceParts).foldr precede [] with
  | [] => empty
  | [form] => form
  | parts => sequence parts

/-- The character of a literal that has only one. -/
def char? : Form → Option Char
  | literal [char] => some char
  | _ => none

/-- The set of a form that matches one character of it. -/
def set? : Form → Option CharSet
  | one set => some set
  | _ => none

/-- One set for alternatives that are all single characters, or all sets. -/
def commonSet? (parts : List Form) : Option CharSet :=
  match parts.mapM char?, parts.mapM set? with
  | some chars, _ => some (.ofRanges (chars.map fun char => (char.toNat, char.toNat)))
  | none, some sets => some (.ofRanges (sets.flatMap CharSet.ranges))
  | none, none => none

/-- Alternatives that share no parts: nested choices are opened, and sets are united. -/
def branching (forms : List Form) : Form :=
  match forms.flatMap choiceParts with
  | [form] => form
  | parts =>
    match commonSet? parts with
    | some set => ofSet set
    | none => choice parts

/-- How many parts at the front of two sequences are the same. -/
def sharedCount : List Form → List Form → Nat
  | form :: rest, other :: others => if same form other then sharedCount rest others + 1 else 0
  | _, _ => 0

/-- The parts of a form that is a sequence. -/
def sequence? : Form → Option (List Form)
  | sequence parts => some parts
  | _ => none

/-- How many parts all alternatives begin with; none unless all are sequences. -/
def sharedByAll (parts : List Form) : Nat :=
  match parts.mapM sequence? with
  | some (first :: others) => (others.map (sharedCount first)).foldl min first.length
  | _ => 0

/-- Alternatives: the parts that all of them begin with stand before the choice. -/
def alternatives (forms : List Form) : Form :=
  match branching forms with
  | choice parts =>
    let count := sharedByAll parts
    if count = 0 then choice parts
    else
      let front := ((parts.head?.map sequenceParts).getD []).take count
      let rests := parts.map fun part => joined ((sequenceParts part).drop count)
      joined (front ++ [branching rests])
  | form => form

end Pattern.Form

end Docket
