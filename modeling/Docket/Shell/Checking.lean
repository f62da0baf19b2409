import Docket.Shell.Digest
import Docket.Shell.Usage

/-! Checking files: programs that print digests of files, and that compare files with digests. -/

namespace Docket.Shell.Checking

/-- A digest as programs know it. -/
structure Method where
  /-- The name in front of a tagged digest. -/
  tag : String
  digest : Text → Text
  digits : Nat

/-- The methods by the names of their programs. -/
def methods : List (String × Method) := [
  ("md5sum", ⟨"MD5", Digest.md5, 32⟩), ("sha1sum", ⟨"SHA1", Digest.sha1, 40⟩),
  ("sha256sum", ⟨"SHA256", Digest.sha256, 64⟩)]

/-- The usage of the programs. Greek letters stand for options that only have long names. -/
def usage (name : String) : Usage :=
  { name, plain := "bctwzτκσιρ"
    long := [
      ("binary", 'b'), ("check", 'c'), ("ignore-missing", 'ι'), ("quiet", 'κ'), ("status", 'σ'),
      ("strict", 'ρ'), ("text", 't'), ("warn", 'w'), ("tag", 'τ'), ("zero", 'z')] }

/-- A name without characters that break lines, and whether it had some. -/
def escapedName (name : Text) : Text × Bool :=
  let escaped := name.flatMap fun char =>
    if char = '\\' then "\\\\".toList else if char = '\n' then "\\n".toList
    else if char = '\r' then "\\r".toList else [char]
  (escaped, escaped != name)

/-- A name that was escaped. -/
def plainName : Text → Text
  | '\\' :: 'n' :: rest => '\n' :: plainName rest
  | '\\' :: 'r' :: rest => '\r' :: plainName rest
  | '\\' :: '\\' :: rest => '\\' :: plainName rest
  | char :: rest => char :: plainName rest
  | [] => []

/-- The line for the digest of a file. -/
def line (given : Given) (tag : Text) (name digest : Text) : Text :=
  let (shown, escaped) := if given.has 'z' then (name, false) else escapedName name
  let lead := if escaped then ['\\'] else []
  let line := if given.has 'τ' then
      lead ++ tag ++ " (".toList ++ shown ++ ") = ".toList ++ digest
    else lead ++ digest ++ ' ' :: (if given.has 'b' then '*' else ' ') :: shown
  line ++ [if given.has 'z' then '\x00' else '\n']

/-- The digest and the name of a file in a line. -/
def listed? (method : Method) (line : Text) : Option (Text × Text) :=
  let (escaped, line) := match line with
    | '\\' :: rest => (true, rest)
    | line => (false, line)
  let isHex (char : Char) : Bool := char.isDigit || 'a' ≤ char && char ≤ 'f'
  let settled (digest name : Text) : Option (Text × Text) :=
    if digest.length = method.digits && digest.all isHex && !name.isEmpty then
      some (digest, if escaped then plainName name else name)
    else none
  let front := method.tag.toList ++ " (".toList
  if Text.startsWith line front then
    let rest := line.drop front.length
    let digest := (rest.reverse.takeWhile (· != ' ')).reverse
    let name := rest.take (rest.length - digest.length)
    if Text.endsWith name ") = ".toList then
      settled (Text.asciiLower digest) (name.take (name.length - 4))
    else none
  else
    let digest := line.take method.digits
    match line.drop method.digits with
    | ' ' :: ' ' :: name => settled (Text.asciiLower digest) name
    | ' ' :: '*' :: name => settled (Text.asciiLower digest) name
    | ' ' :: name => settled (Text.asciiLower digest) name
    | _ => none

/-- How a comparison of files went. -/
structure Outcome where
  read : Nat := 0
  misformed : Nat := 0
  missing : Nat := 0
  different : Nat := 0

/-- Warns about something that was counted. -/
def warn (name : String) (count : Nat) (one more : String) : Work Unit := do
  if 0 < count then
    Filter.complain name ("WARNING: ".toList ++ Text.ofNat count ++ ' ' ::
      (if count = 1 then one else more).toList)

/-- Compares a file with the digest that was listed for it. -/
def compare (given : Given) (name : String) (method : Method) (digest file : Text)
    (outcome : Outcome) : Work Outcome := do
  let outcome := { outcome with read := outcome.read + 1 }
  let isSilent := given.has 'σ'
  let report (verdict : String) : Work Unit := do
    unless isSilent do State.print ((escapedName file).1 ++ ": ".toList ++ verdict.toList ++ ['\n'])
  match ← Filter.read file with
  | .error fault =>
    if given.has 'ι' && fault = .missing then return { outcome with read := outcome.read - 1 }
    Filter.complain name (file ++ ": ".toList ++ Filter.wording fault)
    report "FAILED open or read"
    return { outcome with missing := outcome.missing + 1 }
  | .ok text =>
    if method.digest text = digest then
      unless given.has 'κ' do report "OK"
      return outcome
    else
      report "FAILED"
      return { outcome with different := outcome.different + 1 }

/-- Compares files with the digests in a list. -/
def check (given : Given) (name : String) (method : Method) (list : Text) : Work Nat := do
  let label := if list = ['-'] then "'standard input'".toList else list
  match ← Filter.read list with
  | .error fault =>
    Filter.complain name (list ++ ": ".toList ++ Filter.wording fault)
    return 1
  | .ok text =>
    let mut outcome : Outcome := {}
    for (line, index) in (Filter.lines text).zipIdx do
      match listed? method line with
      | some (digest, file) => outcome ← compare given name method digest file outcome
      | none =>
        if given.has 'w' then
          Filter.complain name (list ++ ": ".toList ++ Text.ofNat (index + 1) ++
            ": improperly formatted ".toList ++ method.tag.toList ++ " checksum line".toList)
        outcome := { outcome with misformed := outcome.misformed + 1 }
    if outcome.read = 0 then
      Filter.complain name (label ++ (if given.has 'ι' && outcome.misformed = 0 then
        ": no file was verified" else ": no properly formatted checksum lines found").toList)
      return 1
    unless given.has 'σ' do
      warn name outcome.misformed "line is improperly formatted" "lines are improperly formatted"
      warn name outcome.missing "listed file could not be read" "listed files could not be read"
      warn name outcome.different "computed checksum did NOT match"
        "computed checksums did NOT match"
    let failed := 0 < outcome.missing + outcome.different ||
      given.has 'ρ' && 0 < outcome.misformed
    return if failed then 1 else 0

/-- Prints the digests of files, or compares them with others. -/
def program (name : String) (method : Method) : Utility :=
  (usage name).program fun given => do
    if given.has 'c' then
      let mut status := 0
      for list in if given.operands.isEmpty then [['-']] else given.operands do
        status := max status (← check given name method list)
      return status
    else Filter.overFiles name given.operands fun path text =>
      State.print (line given method.tag.toList path (method.digest text))

end Docket.Shell.Checking
