import TemplateTrace.Process.Command

/-!
# Programs

The programs that a run can start: `cat`, and a shell `sh` with the commands `cat`, `echo`,
`printf`, `exit`, `true`, `false` and `:`, lists of commands, pipelines, quotes, positional
parameters and redirections. A program reads its input and the file store, and leaves an outcome;
what a script writes into files is gone when it ends.

- `Shell.lex`: a script as words and operators.
- `Shell.parse?`: a script as commands with their redirections.
- `Shell.run`: the outcome of a script.
- `runProgram`: the outcome of a command, or why it cannot be started.
-/

namespace TemplateTrace

/-- The bytes of a text. -/
abbrev bytesOf (s : Text) : List UInt8 := Utf8.encode s

/-! ## Concatenation of files -/

/-- Writes files one after another; `-` and no argument at all mean the input. -/
def catFiles (fs : FileStore) (input : List UInt8) : List Text → Outcome
  | [] => ⟨0, [], []⟩
  | file :: files =>
    let rest := catFiles fs input files
    let complain (what : String) : Outcome :=
      ⟨1, rest.out, bytesOf ("cat: ".toList ++ file ++ what.toList ++ ['\n']) ++ rest.complaints⟩
    if file = ['-'] then { rest with out := input ++ rest.out }
    else match fs.read file with
      | .ok c => { rest with out := c.toBytes ++ rest.out }
      | .error .isADirectory => complain ": Is a directory"
      | .error .notADirectory => complain ": Not a directory"
      | .error _ => complain ": No such file or directory"

/-- The program `cat`. -/
def cat (fs : FileStore) (input : List UInt8) (args : List Text) : Outcome :=
  catFiles fs input (if args = [] then [['-']] else args)

namespace Shell

/-! ## Words -/

/-- A part of a word. -/
inductive Part where
  | text (s : Text)
  /-- A parameter; outside quotes its value is split at blanks. -/
  | parameter (name : Char) (isQuoted : Bool)

/-- A word or an operator. -/
inductive Token where
  | word (parts : List Part)
  | operator (s : Text)

/-- Where the lexer is. -/
inductive Mode where
  | bare
  | single
  | double
  | comment

/-- Adds a part to a word that may not have started yet. -/
def extend (word : Option (List Part)) (p : Part) : Option (List Part) := some (word.getD [] ++ [p])

/-- The finished word in front of more tokens. -/
def finish (word : Option (List Part)) (tokens : List Token) : List Token :=
  match word with
  | some parts => .word parts :: tokens
  | none => tokens

/-- Whether a character names a parameter. -/
def isParameter (c : Char) : Bool := c.isDigit || c == '@' || c == '*' || c == '#' || c == '?'

/-- The tokens of a script, given the mode and the word that has been started. -/
def lex (mode : Mode) (word : Option (List Part)) (s : Text) : Option (List Token) :=
  match mode, s with
  | .single, [] => none
  | .double, [] => none
  | _, [] => some (finish word [])
  | .single, c :: s =>
    if c = '\'' then lex .bare word s else lex .single (extend word (.text [c])) s
  | .double, '"' :: s => lex .bare word s
  | .double, '\\' :: c :: s =>
    let kept := if "$`\"\\".toList.contains c then [c] else ['\\', c]
    lex .double (extend word (.text kept)) s
  | .double, '$' :: c :: s =>
    if isParameter c then lex .double (extend word (.parameter c true)) s
    else lex .double (extend word (.text ['$'])) (c :: s)
  | .double, c :: s => lex .double (extend word (.text [c])) s
  | .comment, '\n' :: s => (lex .bare none s).map (.operator ['\n'] :: ·)
  | .comment, _ :: s => lex .comment none s
  | .bare, '\\' :: c :: s => lex .bare (extend word (.text [c])) s
  | .bare, '\'' :: s => lex .single (extend word (.text [])) s
  | .bare, '"' :: s => lex .double (extend word (.text [])) s
  | .bare, '$' :: c :: s =>
    if isParameter c then lex .bare (extend word (.parameter c false)) s
    else lex .bare (extend word (.text ['$'])) (c :: s)
  | .bare, '&' :: '&' :: s => (lex .bare none s).map (finish word <| .operator "&&".toList :: ·)
  | .bare, '|' :: '|' :: s => (lex .bare none s).map (finish word <| .operator "||".toList :: ·)
  | .bare, '>' :: '&' :: s => (lex .bare none s).map (finish word <| .operator ">&".toList :: ·)
  | .bare, '>' :: '>' :: s => (lex .bare none s).map (finish word <| .operator ">>".toList :: ·)
  | .bare, c :: s =>
    if c = ' ' ∨ c = '\t' then (lex .bare none s).map (finish word)
    else if c = '#' ∧ word.isNone then lex .comment none s
    else if "&|;<>\n".toList.contains c then
      (lex .bare none s).map (finish word <| .operator [c] :: ·)
    else if "()`".toList.contains c then none
    else lex .bare (extend word (.text [c])) s
termination_by s.length

/-! ## Commands -/

/-- What a redirection does to a stream. -/
inductive Redirection where
  | input (file : List Part)
  | output (stream : Nat) (file : List Part)
  | copy (stream source : Nat)

/-- A simple command. -/
structure Simple where
  words : List (List Part) := []
  redirections : List Redirection := []

/-- How a pipeline follows the one before it. -/
inductive Link where
  | always
  | onSuccess
  | onFailure

/-- A pipeline and how it follows the one before it. -/
structure Step where
  link : Link
  commands : List Simple

/-- The number that a word of a single digit writes. -/
def streamOf? : List Part → Option Nat
  | [.text [c]] => if c.isDigit then some (Text.digitValue c) else none
  | _ => none

/-- The words of a command in order, a trailing stream number apart, which belongs to the
redirection that follows it. -/
def splitStream (c : Simple) : Simple × Option Nat :=
  match c.words.getLast? with
  | some w =>
    match streamOf? w with
    | some n => if n = 2 ∨ n = 1 then ({ c with words := c.words.dropLast }, some n) else (c, none)
    | none => (c, none)
  | none => (c, none)

/-- A command with one redirection more. -/
def Simple.redirect (c : Simple) (r : Redirection) : Simple :=
  { c with redirections := c.redirections ++ [r] }

/-- The steps of a script, given the command, the pipeline and the link that have been started. -/
def parseFrom (c : Simple) (pipeline : List Simple) (link : Link) : List Token → Option (List Step)
  | [] => some (close [])
  | .operator ['<'] :: .word w :: ts => parseFrom (c.redirect (.input w)) pipeline link ts
  | .operator op :: .word w :: ts =>
    if op = ">".toList ∨ op = ">>".toList then
      let (c, n) := splitStream c
      parseFrom (c.redirect (.output (n.getD 1) w)) pipeline link ts
    else if op = ">&".toList then
      match streamOf? w with
      | some source =>
        let (c, n) := splitStream c
        parseFrom (c.redirect (.copy (n.getD 1) source)) pipeline link ts
      | none => none
    else if op = "|".toList then parseFrom { words := [w] } (pipeline ++ [c]) link ts
    else (follow op).bind fun next => (parseFrom { words := [w] } [] next ts).map close
  | .operator op :: ts => (follow op).bind fun next => (parseFrom {} [] next ts).map close
  | .word w :: ts => parseFrom { c with words := c.words ++ [w] } pipeline link ts
where
  /-- The step that has been started, in front of later ones. -/
  close (steps : List Step) : List Step :=
    if c.words.isEmpty ∧ pipeline.isEmpty then steps else ⟨link, pipeline ++ [c]⟩ :: steps
  /-- The link that an operator makes. -/
  follow (op : Text) : Option Link :=
    if op = ";".toList ∨ op = "\n".toList then some .always
    else if op = "&&".toList then some .onSuccess
    else if op = "||".toList then some .onFailure
    else none

/-- The steps of a script. -/
def parse? (script : Text) : Option (List Step) :=
  (lex .bare none script).bind (parseFrom {} [] .always)

/-! ## Running -/

/-- The parameters of a script and the status of its last command. -/
structure Scope where
  name : Text
  args : List Text
  status : Nat

/-- The value of a parameter. -/
def Scope.value (σ : Scope) (c : Char) : Text :=
  if c = '#' then Text.decimal σ.args.length
  else if c = '?' then Text.decimal σ.status
  else if c = '@' ∨ c = '*' then Text.joinWith [' '] σ.args
  else if c = '0' then σ.name
  else σ.args.getD (Text.digitValue c - 1) []

/-- The words that a word stands for. -/
def Scope.expand (σ : Scope) (parts : List Part) : List Text :=
  match parts with
  | [.parameter '@' true] => σ.args
  | [.parameter '@' false] => σ.args.flatMap Text.words
  | [.parameter c false] => Text.words (σ.value c)
  | parts => [parts.flatMap fun
      | .text s => s
      | .parameter c _ => σ.value c]

/-- The value of octal digits. -/
def octal (ds : Text) : UInt8 := UInt8.ofNat (ds.foldl (fun n c => n * 8 + Text.digitValue c) 0)

/-- The bytes that backslash escapes stand for; numbers have at most three octal digits. -/
def unescape : Nat → Text → List UInt8
  | 0, _ => []
  | n + 1, s =>
    match s with
    | [] => []
    | '\\' :: c :: r =>
      let plain (b : UInt8) := b :: unescape n r
      match c with
      | 'n' => plain 0x0a
      | 't' => plain 0x09
      | 'r' => plain 0x0d
      | '\\' => plain 0x5c
      | 'a' => plain 0x07
      | 'b' => plain 0x08
      | 'f' => plain 0x0c
      | 'v' => plain 0x0b
      | c =>
        let ds := ((c :: r).take 3).takeWhile fun d => '0' ≤ d && d ≤ '7'
        if ds = [] then bytesOf ['\\', c] ++ unescape n r
        else octal ds :: unescape n ((c :: r).drop ds.length)
    | c :: r => bytesOf [c] ++ unescape n r

/-- What `printf` writes for a format and arguments, the format read once. -/
def format : Nat → Text → List Text → List UInt8
  | 0, _, _ => []
  | n + 1, s, args =>
    match s with
    | [] => []
    | '%' :: '%' :: r => 0x25 :: format n r args
    | '%' :: 'b' :: r => unescape (args.headD []).length (args.headD []) ++ format n r args.tail
    | '%' :: _ :: r => bytesOf (args.headD []) ++ format n r args.tail
    | '\\' :: r =>
      let ds := (r.take 3).takeWhile fun d => '0' ≤ d && d ≤ '7'
      let k := max 1 ds.length
      unescape 1 ('\\' :: r.take k) ++ format n (r.drop k) args
    | c :: r => bytesOf [c] ++ format n r args

/-- What a command of the shell leaves behind, and whether it ends the script. -/
def builtin (fs : FileStore) (σ : Scope) (input : List UInt8) (words : List Text) :
    Outcome × Bool :=
  match words with
  | [] => (⟨0, [], []⟩, false)
  | name :: args =>
    match String.ofList name with
    | ":" => (⟨0, [], []⟩, false)
    | "true" => (⟨0, [], []⟩, false)
    | "false" => (⟨1, [], []⟩, false)
    | "cat" => (cat fs input args, false)
    | "echo" =>
      let (args, ending) :=
        if args.head? = some "-n".toList then (args.tail, []) else (args, [0x0a])
      let s := Text.joinWith [' '] args
      (⟨0, unescape s.length s ++ ending, []⟩, false)
    | "printf" => (⟨0, format (args.headD []).length (args.headD []) args.tail, []⟩, false)
    | "exit" => (⟨((args.head?.bind Text.toNat?).getD σ.status) % 256, [], []⟩, true)
    | _ => (⟨127, [], bytesOf ("sh: 1: ".toList ++ name ++ ": not found\n".toList)⟩, false)

/-- Where a stream goes. -/
inductive Sink where
  | out
  | complaints
  | nowhere
  deriving DecidableEq

/-- Where output and complaints go under redirections. -/
def sinks : List Redirection → Sink × Sink
  | [] => (.out, .complaints)
  | rs => rs.foldl (fun (o, e) r =>
      match r with
      | .input _ => (o, e)
      | .output n _ => if n = 2 then (o, .nowhere) else (.nowhere, e)
      | .copy n source =>
        let target := if source = 2 then e else o
        if n = 2 then (o, target) else (target, e)) (.out, .complaints)

/-- The input of a command under redirections. -/
def inputOf (fs : FileStore) (σ : Scope) (input : List UInt8) (rs : List Redirection) :
    List UInt8 :=
  rs.foldl (fun input r =>
    match r with
    | .input file =>
      match fs.read ((σ.expand file).headD []) with
      | .ok c => c.toBytes
      | .error _ => []
    | _ => input) input

/-- Runs a simple command: its outcome with the streams where its redirections send them, and
whether it ends the script. -/
def runSimple (fs : FileStore) (σ : Scope) (input : List UInt8) (c : Simple) : Outcome × Bool :=
  let (r, ends) := builtin fs σ (inputOf fs σ input c.redirections) (c.words.flatMap σ.expand)
  let (o, e) := sinks c.redirections
  let pick (s : Sink) : List UInt8 :=
    (if o = s then r.out else []) ++ (if e = s then r.complaints else [])
  (⟨r.status, pick .out, pick .complaints⟩, ends)

/-- Runs a pipeline; each command reads what the one before it wrote. -/
def runPipeline (fs : FileStore) (σ : Scope) (input : List UInt8) : List Simple → Outcome × Bool
  | [] => (⟨0, [], []⟩, false)
  | [c] => runSimple fs σ input c
  | c :: cs =>
    let (first, _) := runSimple fs σ input c
    let (last, _) := runPipeline fs σ first.out cs
    (⟨last.status, last.out, first.complaints ++ last.complaints⟩, false)

/-- Whether a command reads the script's input. -/
def readsInput (σ : Scope) (c : Simple) : Bool :=
  match c.words.flatMap σ.expand with
  | name :: args => name == "cat".toList && (args == [] || args.contains ['-'])
  | [] => false

/-- Runs steps one after another; the first command that reads the input takes all of it. -/
def runSteps (fs : FileStore) (σ : Scope) (input : List UInt8) : List Step → Outcome
  | [] => ⟨σ.status, [], []⟩
  | step :: steps =>
    let skipped := match step.link with
      | .always => false
      | .onSuccess => σ.status ≠ 0
      | .onFailure => σ.status = 0
    if skipped then runSteps fs σ input steps
    else
      let (here, ends) := runPipeline fs σ input step.commands
      if ends then here
      else
        let input := if step.commands.head?.any (readsInput σ) then [] else input
        let rest := runSteps fs { σ with status := here.status } input steps
        ⟨rest.status, here.out ++ rest.out, here.complaints ++ rest.complaints⟩

/-- Runs a script. -/
def run (fs : FileStore) (input : List UInt8) (script name : Text) (args : List Text) : Outcome :=
  match parse? script with
  | some steps => runSteps fs ⟨name, args, 0⟩ input steps
  | none => ⟨2, [], bytesOf "sh: 1: Syntax error\n".toList⟩

end Shell

/-- Runs a command on an input. -/
def runProgram (fs : FileStore) (c : CommandSpec) (input : List UInt8) :
    Except CommandError Outcome :=
  match String.ofList c.program, c.args with
  | "cat", args => .ok (cat fs input args)
  | "sh", flag :: script :: args =>
    if flag = "-c".toList then .ok (Shell.run fs input script (args.headD c.program) args.tail)
    else .error (.spawn c.display .notFound)
  | _, _ => .error (.spawn c.display .notFound)

/-- Compiles tagged source by a command. -/
def CommandSpec.compile (c : CommandSpec) (fs : FileStore) (source : Text) :
    Except CommandError Text :=
  runProgram fs c (bytesOf source) >>= compileOutput c

/-- Checks the file at a path by a command. Errors name the command without the path. -/
def CommandSpec.check (c : CommandSpec) (fs : FileStore) (path : Text) :
    Except CommandError (List RawDiagnostic) := do
  match runProgram fs { c with args := c.args ++ [path] } [] with
  | .ok o => checkOutput c o
  | .error (.spawn _ cause) => .error (.spawn c.display cause)
  | .error e => .error e

end TemplateTrace
