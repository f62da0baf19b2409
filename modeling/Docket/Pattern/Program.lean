import Docket.Pattern.Form

/-! Programs: patterns as instructions for a search with choices. -/

namespace Docket.Pattern

/-- An instruction. Every one but the last leads to others, named by their addresses. -/
inductive Instruction where
  /-- Takes a character of a set. -/
  | take (set : CharSet) (next : Nat)
  /-- Goes on if an assertion holds. -/
  | check (assertion : Assertion) (next : Nat)
  /-- Remembers the position in a slot. -/
  | save (slot : Nat) (next : Nat)
  /-- Tries several ways, the first ones first. -/
  | fork (ways : List Nat)
  | accept
deriving Inhabited

/-- The instructions by address, and where they begin. -/
structure Program where
  code : Array Instruction
  entry : Nat
deriving Inhabited

/-- Instructions under construction. -/
abbrev Code := Array Instruction

namespace Code

/-- Adds an instruction; gives its address. -/
def push (code : Code) (instruction : Instruction) : Nat × Code :=
  (code.size, Array.push code instruction)

/-- A fork that prefers to enter the body or, if modest, to pass it. -/
def choose (greedy : Bool) (body next : Nat) : Instruction :=
  .fork (if greedy then [body, next] else [next, body])

/-- A loop that runs the body again and again, once before it is left. -/
def loop (greedy : Bool) (body : Nat → Code → Nat × Code) (next : Nat) (code : Code) :
    Nat × Nat × Code :=
  let (again, code) := code.push (.fork [])
  let (entry, code) := body again code
  (entry, again, code.setIfInBounds again (choose greedy entry next))

/-- The body several times in a row. -/
def copies (body : Nat → Code → Nat × Code) : Nat → Nat → Code → Nat × Code
  | 0, next, code => (next, code)
  | count + 1, next, code =>
    let (next, code) := body next code
    copies body count next code

/-- Up to so many times the body, where each can be passed together with all after it. -/
def optionals (greedy : Bool) (body : Nat → Code → Nat × Code) (last : Nat) :
    Nat → Nat → Code → Nat × Code
  | 0, next, code => (next, code)
  | count + 1, next, code =>
    let (entry, code) := body next code
    let (next, code) := code.push (choose greedy entry last)
    optionals greedy body last count next code

/-- A repetition of a body; `consumes` tells whether each pass takes a character. -/
def repeating (greedy consumes : Bool) (least : Nat) (most : Option Nat)
    (body : Nat → Code → Nat × Code) (next : Nat) (code : Code) : Nat × Code :=
  match most with
  | some most =>
    let (entry, code) := optionals greedy body next (most - least) next code
    copies body least entry code
  | none =>
    let (entry, again, code) := loop greedy body next code
    if least = 0 then
      if consumes then (again, code) else code.push (choose greedy entry next)
    else copies body (least - 1) entry code

end Code

/-- The instructions that take the characters of a text one after the other. -/
def compileText (next : Nat) (code : Code) (text : Text) : Nat × Code :=
  text.foldr (fun char (next, code) => Code.push code (.take (.singleton char) next)) (next, code)

mutual

/-- The instructions of a form that go on at address `next`; gives where they begin. -/
def Form.compile (next : Nat) (code : Code) : Form → Nat × Code
  | .empty => (next, code)
  | .literal text => compileText next code text
  | .one set => code.push (.take set next)
  | .assertion assertion => code.push (.check assertion next)
  | .group group body =>
    let (next, code) := code.push (.save (2 * group.index + 1) next)
    let (next, code) := body.compile next code
    code.push (.save (2 * group.index) next)
  | .repeated body least most greedy =>
    code.repeating greedy body.consumes least most (fun next code => body.compile next code) next
  | .sequence parts => compileSequence next code parts
  | .choice parts =>
    let (ways, code) := compileChoices next code parts
    code.push (.fork ways)

/-- The instructions of forms in a row. -/
def compileSequence (next : Nat) (code : Code) : List Form → Nat × Code
  | [] => (next, code)
  | form :: rest =>
    let (next, code) := compileSequence next code rest
    form.compile next code

/-- The instructions of alternatives; gives where each begins. -/
def compileChoices (next : Nat) (code : Code) : List Form → List Nat × Code
  | [] => ([], code)
  | form :: rest =>
    let (entry, code) := form.compile next code
    let (ways, code) := compileChoices next code rest
    (entry :: ways, code)

end

/-- The program that matches a form and remembers the whole match in group zero. -/
def Program.ofForm (form : Form) : Program :=
  let (entry, code) := (Form.group ⟨0, none⟩ form).compile 0 #[.accept]
  ⟨code, entry⟩

end Docket.Pattern
