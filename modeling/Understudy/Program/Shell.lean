import Understudy.Files.Disk
import Understudy.Text.WhiteSpace

/-!
# Shell scripts

The part of the shell's language that a formatter script needs: commands with quoted words, one a
line or with `;`, `&&` and `||` between them, and redirections of the output to nowhere or to the
error output. Commands write text, copy their input, or end the script.

* `Shell.run` runs a script on an input.
-/

set_option autoImplicit false

namespace Understudy.Shell

open Files Text

/-- How a program ends. -/
inductive Ending where
  | status (code : Nat)
  | signal (number : Nat)
deriving DecidableEq, Repr

/-- What a program leaves behind: its outputs, the input it has not read, and how it ended. -/
structure Outcome where
  output : ByteArray
  errors : ByteArray
  unread : ByteArray
  ending : Ending

/-! ## Words -/

/-- A piece of a command line. -/
inductive Lexeme where
  | word (text : String)
  /-- Ends a command: `;`, `&&`, `||` or a line end. -/
  | cut (text : String)
  /-- Sends the output of the given number to a target. -/
  | redirect (channel : Nat) (target : String)
deriving DecidableEq, Repr

/-- Whether a character goes on with an unquoted word. -/
def isPlain (c : Char) : Bool :=
  !(c == ' ' || c == '\t' || c == '\n' || c == ';' || c == '&' || c == '|' || c == '>' || c == '<')

/-- Reads a word. `quote` is the quotation that is open. A backslash keeps the next character, in
double quotes only before a character that means something there. -/
def readWord : (quote : Option Char) → List Char → List Char × List Char
  | _, [] => ([], [])
  | none, '\\' :: c :: cs =>
    let (w, rest) := readWord none cs
    (if c = '\n' then w else c :: w, rest)
  | some '"', '\\' :: c :: cs =>
    let (w, rest) := readWord (some '"') cs
    if c = '\n' then (w, rest)
    else if c = '"' ∨ c = '\\' ∨ c = '$' ∨ c = '`' then (c :: w, rest)
    else ('\\' :: c :: w, rest)
  | none, c :: cs =>
    if c = '"' ∨ c = '\'' then readWord (some c) cs
    else if isPlain c then
      let (w, rest) := readWord none cs
      (c :: w, rest)
    else ([], c :: cs)
  | some q, c :: cs =>
    if c = q then readWord none cs
    else
      let (w, rest) := readWord (some q) cs
      (c :: w, rest)

/-- Skips a comment. -/
def skipComment (cs : List Char) : List Char := cs.dropWhile (· != '\n')

/-- Splits a script into lexemes, in at most `fuel` steps. -/
def lexemes : (fuel : Nat) → List Char → List Lexeme
  | 0, _ => []
  | _, [] => []
  | fuel + 1, c :: cs =>
    if c = ' ' ∨ c = '\t' then lexemes fuel cs
    else if c = '#' then lexemes fuel (skipComment cs)
    else if c = '\n' ∨ c = ';' then .cut (String.singleton c) :: lexemes fuel cs
    else if c = '&' ∧ cs.head? = some '&' then .cut "&&" :: lexemes fuel cs.tail
    else if c = '|' ∧ cs.head? = some '|' then .cut "||" :: lexemes fuel cs.tail
    else if c = '>' then redirection 1 cs fuel
    else if c = '<' then redirection 0 cs fuel
    else if (c = '1' ∨ c = '2') ∧ cs.head? = some '>' then
      redirection (if c = '1' then 1 else 2) cs.tail fuel
    else
      let (w, rest) := readWord none (c :: cs)
      if rest.length < (c :: cs).length then .word (String.ofList w) :: lexemes fuel rest
      else .word (String.singleton c) :: lexemes fuel cs
where
  /-- A redirection after its arrow. -/
  redirection (channel : Nat) (cs : List Char) (fuel : Nat) : List Lexeme :=
    let cs := if cs.head? = some '>' then cs.tail else cs
    let (mark, cs) : List Char × List Char :=
      if cs.head? = some '&' then (['&'], cs.tail) else ([], cs)
    let (w, rest) := readWord none (cs.dropWhile (· == ' '))
    .redirect channel (String.ofList (mark ++ w)) :: lexemes fuel rest

/-! ## Commands -/

/-- Where an output goes. -/
inductive Target where
  | output
  | errors
  | nowhere
deriving DecidableEq

/-- A command: its words, where its outputs go, and whether its input is empty. -/
structure Command where
  words : List String
  output : Target := .output
  errors : Target := .errors
  noInput : Bool := false

/-- The command after a redirection. -/
def Command.redirected (c : Command) (channel : Nat) (target : String) : Command :=
  let place : Target :=
    if target = "&1" then c.output else if target = "&2" then c.errors else .nowhere
  match channel with
  | 0 => { c with noInput := true }
  | 1 => { c with output := place }
  | _ => { c with errors := place }

/-- A command, what joins it to the one before it, and its line. -/
structure Joined where
  joint : String
  line : Nat
  command : Command

/-- Groups lexemes into commands, from the given line on. -/
def commands : (joint : String) → (line : Nat) → Command → List Lexeme → List Joined
  | joint, line, c, [] => if c.words.isEmpty then [] else [⟨joint, line, c⟩]
  | joint, line, c, .word w :: rest => commands joint line { c with words := c.words ++ [w] } rest
  | joint, line, c, .redirect channel target :: rest =>
    commands joint line (c.redirected channel target) rest
  | joint, line, c, .cut next :: rest =>
    let after := if next = "\n" then line + 1 else line
    if c.words.isEmpty then commands joint after c rest
    else ⟨joint, line, c⟩ :: commands next after ⟨[], .output, .errors, false⟩ rest

/-! ## Writing text -/

/-- The number that up to three octal digits at the front make, and what follows. -/
def octalDigits : (count : Nat) → (value : Nat) → List Char → Nat × List Char
  | 0, value, cs => (value, cs)
  | _ + 1, value, [] => (value, [])
  | count + 1, value, c :: cs =>
    if '0' ≤ c ∧ c ≤ '7' then octalDigits count (value * 8 + (c.toNat - 48)) cs
    else (value, c :: cs)

/-- The byte that a letter after a backslash stands for. -/
def escapedByte? : Char → Option UInt8
  | 'a' => some 7
  | 'b' => some 8
  | 'f' => some 12
  | 'n' => some 10
  | 'r' => some 13
  | 't' => some 9
  | 'v' => some 11
  | '\\' => some 92
  | '"' => some 34
  | _ => none

/-- The bytes of characters. -/
def bytesOf (cs : List Char) : List UInt8 := cs.flatMap String.utf8EncodeChar

/-- The bytes that a text with escapes stands for, in at most `fuel` steps. -/
def escapedBytes : (fuel : Nat) → List Char → List UInt8
  | 0, _ => []
  | _, [] => []
  | fuel + 1, '\\' :: c :: cs =>
    if '0' ≤ c ∧ c ≤ '7' then
      let (value, rest) := octalDigits 3 0 (c :: cs)
      value.toUInt8 :: escapedBytes fuel rest
    else
      match escapedByte? c with
      | some b => b :: escapedBytes fuel cs
      | none => bytesOf ['\\', c] ++ escapedBytes fuel cs
  | fuel + 1, c :: cs => bytesOf [c] ++ escapedBytes fuel cs

/-- The text of a format with its arguments put in. -/
def formatted : (args : List String) → List Char → List Char
  | _, [] => []
  | args, '%' :: '%' :: cs => '%' :: formatted args cs
  | args, '%' :: c :: cs =>
    if c = 's' ∨ c = 'd' then ((args.head?.getD "").toList) ++ formatted args.tail cs
    else '%' :: c :: formatted args cs
  | args, c :: cs => c :: formatted args cs

/-- The bytes that a format with arguments stands for. -/
def formatBytes (words : List String) : List UInt8 :=
  match words with
  | [] => []
  | format :: args =>
    let cs := formatted args format.toList
    escapedBytes (cs.length + 1) cs

/-- The bytes that the words with blanks between them stand for, and a line end. -/
def echoBytes (words : List String) : List UInt8 :=
  match words with
  | "-n" :: rest => write rest
  | words => write words ++ [10]
where
  write (words : List String) : List UInt8 :=
    let cs := (String.intercalate " " words).toList
    escapedBytes (cs.length + 1) cs

/-! ## Running -/

/-- The state of a script: its outputs so far in bytes, the input that is left, and the status of
the last command. -/
structure State where
  output : List UInt8
  errors : List UInt8
  input : ByteArray
  status : Nat

/-- Adds bytes to an output. -/
def State.send (s : State) (target : Target) (bytes : List UInt8) : State :=
  match target with
  | .output => { s with output := s.output ++ bytes }
  | .errors => { s with errors := s.errors ++ bytes }
  | .nowhere => s

/-- What a command leads to: the script goes on, or ends. -/
inductive Effect where
  | next (state : State)
  | stop (state : State) (ending : Ending)

/-- Copies the input of a command, or the named files, to its output. -/
def copy (d : Disk) (c : Command) (files : List String) (s : State) : State :=
  if files.isEmpty then
    if c.noInput then { s with status := 0 }
    else { s.send c.output s.input.toList with input := ByteArray.empty, status := 0 }
  else
    files.foldl (fun s (file : String) =>
      match d.readBytes file with
      | .ok bytes => { s.send c.output bytes.toList with status := s.status }
      | .error _ => { s with status := 1 }) { s with status := 0 }

/-- The number that a word is. -/
def wordNumber (w : String) : Nat := (w.toNat?).getD 2

/-- Runs a command. `place` is where it stands, for a message that it is not known. -/
def Command.run (d : Disk) (place : String) (c : Command) (s : State) : Effect :=
  match c.words with
  | [] => .next s
  | "exec" :: name :: args => perform name args
  | name :: args => perform name args
where
  /-- Runs a command by its name. -/
  perform (name : String) (args : List String) : Effect :=
    match name with
    | "cat" | "/bin/cat" | "/usr/bin/cat" =>
      if name = "cat" then unknown name else .next (copy d c args s)
    | "echo" | "/bin/echo" => .next { s.send c.output (echoBytes args) with status := 0 }
    | "printf" => .next { s.send c.output (formatBytes args) with status := 0 }
    | "true" | ":" | "/bin/true" | "/usr/bin/true" => .next { s with status := 0 }
    | "false" | "/bin/false" | "/usr/bin/false" => .next { s with status := 1 }
    | "exit" =>
      match args with
      | [] => .stop s (.status s.status)
      | code :: _ => .stop s (.status (wordNumber code % 256))
    | "kill" =>
      match args with
      | [sig, "$$"] => .stop s (.signal (signalNumber sig))
      | _ => .next { s with status := 1 }
    | "sleep" | "/bin/sleep" => .next { s with status := 0 }
    | _ => unknown name
  /-- A command that is not known. -/
  unknown (name : String) : Effect :=
    .next { s.send c.errors (bytesOf (place ++ ": " ++ name ++ ": not found\n").toList) with
      status := 127 }
  /-- The signal that an option names. -/
  signalNumber (option : String) : Nat :=
    match option with
    | "-KILL" | "-SIGKILL" => 9
    | "-TERM" | "-SIGTERM" => 15
    | "-INT" => 2
    | "-HUP" => 1
    | other => (String.ofList (other.toList.drop 1)).toNat?.getD 15

/-- Whether a command runs after one with the given status. -/
def Joined.runs (j : Joined) (status : Nat) : Bool :=
  match j.joint with
  | "&&" => status == 0
  | "||" => status != 0
  | _ => true

/-- Runs commands one after the other. -/
def runAll (d : Disk) (script : String) : List Joined → State → State × Ending
  | [], s => (s, .status s.status)
  | j :: rest, s =>
    if j.runs s.status then
      match j.command.run d (script ++ ": " ++ toString j.line) s with
      | .next s' => runAll d script rest s'
      | .stop s' ending => (s', ending)
    else runAll d script rest s

/-- Runs the script of the given name on an input. -/
def run (d : Disk) (name : String) (script : List Char) (input : ByteArray) : Outcome :=
  let all := commands ";" 1 ⟨[], .output, .errors, false⟩ (lexemes (script.length + 1) script)
  let (s, ending) := runAll d name all ⟨[], [], input, 0⟩
  ⟨s.output.toByteArray, s.errors.toByteArray, s.input, ending⟩

end Understudy.Shell
