import TextTemplate.Program.Nested
import TextTemplate.Tree.Value

/-!
# A small language of commands

Programs can be run over commands that read and write variables, keep a log, fail, and look at the
values that have names.

- `Command`: the commands, over any type of values.
- `Memory`: what commands work on.
- `Command.evaluator`: how commands are evaluated.
- `Script.run`: a program of commands, in which programs may be nested, run on some variables.
-/

namespace TextTemplate

/-- A command. -/
inductive Command (ν : Type)
  /-- The value of a variable; every reading is counted. -/
  | var (name : String)
  /-- Adds a line to the log, for effect. -/
  | log (line : String)
  /-- Gives a variable a value, for effect. -/
  | set (name value : String)
  /-- Fails. -/
  | fail (reason : String)
  /-- The value whose name has a stem and a number. -/
  | env (stem : String) (n : Nat)
  /-- The number of values that have names; it is logged for effect. -/
  | envSize
  /-- A value. -/
  | value (v : ν)
deriving DecidableEq, Repr

/-- A list of keys with one value each, in the order in which the keys came. -/
structure Table (β : Type) where
  entries : List (String × β)
deriving Repr

namespace Table

variable {β : Type}

/-- The table without entries. -/
def empty : Table β := ⟨[]⟩

/-- The value of a key. -/
def get? (t : Table β) (key : String) : Option β :=
  (t.entries.find? fun entry => entry.1 == key).map (·.2)

/-- Gives a key a value in a list of entries. -/
def putIn (key : String) (value : β) : List (String × β) → List (String × β)
  | [] => [(key, value)]
  | (k, v) :: rest => if k = key then (key, value) :: rest else (k, v) :: putIn key value rest

/-- Gives a key a value. -/
def put (t : Table β) (key : String) (value : β) : Table β := ⟨putIn key value t.entries⟩

end Table

/-- What commands work on. -/
structure Memory where
  vars : Table String
  log : List String
  /-- How often each variable was read. -/
  reads : Table Nat
deriving Repr

namespace Memory

/-- The memory with some variables at the beginning. -/
def start (vars : Table String) : Memory := ⟨vars, [], .empty⟩

/-- Counts a reading of a variable. -/
def countRead (m : Memory) (name : String) : Memory :=
  { m with reads := m.reads.put name ((m.reads.get? name).getD 0 + 1) }

/-- Adds a line to the log. -/
def addLine (m : Memory) (line : String) : Memory := { m with log := m.log ++ [line] }

/-- Gives a variable a value. -/
def setVar (m : Memory) (name value : String) : Memory :=
  { m with vars := m.vars.put name value }

end Memory

/-- Why a command fails. -/
inductive CommandError
  | undefined (name : String)
  | failed (reason : String)
  | unnamed (id : Ident)
deriving DecidableEq, Repr

namespace CommandError

/-- The reason in words. -/
def message : CommandError → String
  | undefined name => "undefined variable `" ++ name ++ "`"
  | failed reason => reason
  | unnamed id => "env has no `" ++ id.name ++ "`"

end CommandError

namespace Command

variable {ν : Type}

/-- The number of values that have names, and whether there is none, in words. -/
def describe (names : Env) : String :=
  toString names.size ++ ":" ++ (if names.isEmpty then "true" else "false")

/-- The value of a command. Lines are logged and variables set only for effect, so these commands
have the empty value. -/
def eval [Interpolable ν] (c : Command ν) (names : Env) : Action Memory CommandError Tree := do
  match c with
  | var name =>
    modify (·.countRead name)
    match (← get).vars.get? name with
    | some s => return .text s
    | none => throw (.undefined name)
  | log _ | set _ _ => return .empty
  | fail reason => throw (.failed reason)
  | env stem n =>
    match names.get? (.numbered stem n) with
    | some t => return .shared t
    | none => throw (.unnamed (.numbered stem n))
  | envSize => return .text (describe names)
  | value v => return toTree v

/-- The effect of a command. What has no effect of its own is evaluated, and its value is
dropped. -/
def exec [Interpolable ν] (c : Command ν) (names : Env) : Action Memory CommandError Unit := do
  match c with
  | log line => modify (·.addLine line)
  | set name text => modify (·.setVar name text)
  | envSize => modify (·.addLine (describe names))
  | c =>
    let _ ← c.eval names

/-- How commands are evaluated. -/
def evaluator [Interpolable ν] : Evaluator Memory (Command ν) CommandError where
  eval := eval
  exec := exec

/-- The name of the kind of a command. -/
def kind : Command ν → String
  | var name => name
  | log _ => "log"
  | set _ _ => "set"
  | fail _ => "fail"
  | env _ _ => "env"
  | envSize => "envlen"
  | value _ => "value"

end Command

/-- An expression of a script: a command, or a program of commands. -/
abbrev Script (ν : Type) := Nested (Command ν)

namespace Script

variable {ν : Type}

/-- The name of the kind of an expression. -/
def kind : Script ν → String
  | .atom c => c.kind
  | .block _ => "block"

/-- Why a run of a script fails. -/
abbrev Error := ExecError (NestedError CommandError)

/-- The reason why a statement fails, in words. -/
def sourceMessage (e : NestedError CommandError) : String := e.message CommandError.message

/-- Runs a program on some variables; the memory afterwards is returned in every case. -/
def run [Interpolable ν] (program : Block (Script ν)) (vars : Table String) :
    Except Error Tree × Memory :=
  (execute (Nested.evaluator Command.evaluator) program).run.run (Memory.start vars)

end Script

end TextTemplate
