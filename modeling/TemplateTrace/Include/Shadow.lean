import TemplateTrace.Text.Decimal

/-!
# Shadowing

A template that is included with data sees each key as a variable. The fragment is spliced into
its caller's code, so the caller's variables of these names are put aside in front of it and put
back behind it. All values are computed before any name is taken, so that `['a' => $b, 'b' => $a]`
swaps. The helper variables carry the nesting depth in their names and never meet.

- `ShadowValue`, `ShadowStatement`: the statements that do this, and their host code.
- `Shadow.enter`, `Shadow.leave`: the statements in front of a fragment and behind it.
-/

namespace TemplateTrace

/-- The value that a statement assigns. -/
inductive ShadowValue where
  /-- A data expression of the call. -/
  | expression (code : Text)
  | variable (name : Text)
  /-- Whether a variable is defined, a variable that holds null included. -/
  | isDefined (name : Text)
  /-- The value of a variable, or null if it is not defined. -/
  | valueOrNull (name : Text)
  deriving DecidableEq, Repr

/-- A statement that shadows variables or restores them. -/
inductive ShadowStatement where
  | assign (name : Text) (value : ShadowValue)
  /-- Gives a variable its saved value back if it was defined, and unsets it if not. -/
  | restore (had name saved : Text)
  | unset (names : List Text)
  deriving DecidableEq, Repr

/-- A variable in host code. -/
def variableCode (name : Text) : Text := '$' :: name

/-- A value in host code. -/
def ShadowValue.code : ShadowValue → Text
  | expression code => code
  | .variable name => variableCode name
  | isDefined name => "array_key_exists('".toList ++ name ++ "', get_defined_vars())".toList
  | valueOrNull name => variableCode name ++ " ?? null".toList

/-- Names joined with a comma and a blank. -/
def commaList (names : List Text) : Text :=
  match names with
  | [] => []
  | [n] => n
  | n :: ns => n ++ ", ".toList ++ commaList ns

/-- A statement in host code. -/
def ShadowStatement.code : ShadowStatement → Text
  | assign name value => variableCode name ++ " = ".toList ++ value.code ++ [';']
  | restore had name saved =>
    "if (".toList ++ variableCode had ++ ") \x7b ".toList ++ variableCode name ++ " = ".toList ++
      variableCode saved ++ "; \x7d else \x7b unset(".toList ++ variableCode name ++
      "); \x7d".toList
  | unset names => "unset(".toList ++ commaList (names.map variableCode) ++ ");".toList

/-- Statements on one line, with a blank between them. -/
def statementsCode : List ShadowStatement → Text
  | [] => []
  | [s] => s.code
  | s :: ss => s.code ++ ' ' :: statementsCode ss

/-- Whether a text is the name of a variable. -/
def isIdentifier : Text → Bool
  | [] => false
  | c :: s => (c.isAlpha || c == '_') && s.all fun c => c.isAlphanum || c == '_'

/-- The data that a fragment at a nesting depth is entered with: keys and expressions. -/
structure Shadow where
  depth : Nat
  entries : List (Text × Text)
  deriving DecidableEq, Repr

namespace Shadow

/-- The shadowing of the keys that are names of variables; other keys define none. -/
def of (depth : Nat) (pairs : List (Text × Text)) : Shadow :=
  { depth, entries := pairs.filter (isIdentifier ·.1) }

/-- The name of a helper variable. -/
def helper (role : String) (depth : Nat) (name : Text) : Text :=
  "__lens_".toList ++ role.toList ++ '_' :: Text.decimal depth ++ '_' :: name

/-- The helper variable that holds the value of an entry. -/
def argument (s : Shadow) (name : Text) : Text := helper "arg" s.depth name

/-- The helper variable that tells whether a name was defined. -/
def had (s : Shadow) (name : Text) : Text := helper "had" s.depth name

/-- The helper variable that holds the caller's value of a name. -/
def saved (s : Shadow) (name : Text) : Text := helper "saved" s.depth name

/-- Computes the value of an entry. -/
def compute (s : Shadow) (entry : Text × Text) : ShadowStatement :=
  .assign (s.argument entry.1) (.expression entry.2)

/-- Puts the caller's variable aside and takes its name. -/
def take (s : Shadow) (name : Text) : List ShadowStatement :=
  [.assign (s.had name) (.isDefined name), .assign (s.saved name) (.valueOrNull name),
    .assign name (.variable (s.argument name))]

/-- Puts the caller's variable back and unsets the helpers. -/
def giveBack (s : Shadow) (name : Text) : List ShadowStatement :=
  [.restore (s.had name) name (s.saved name),
    .unset [s.argument name, s.saved name, s.had name]]

/-- The names that are shadowed, in order. -/
def names (s : Shadow) : List Text := s.entries.map (·.1)

/-- The statements in front of a fragment. -/
def enter (s : Shadow) : List ShadowStatement :=
  s.entries.map s.compute ++ s.names.flatMap s.take

/-- The statements behind a fragment, the last name first. -/
def leave (s : Shadow) : List ShadowStatement := s.names.reverse.flatMap s.giveBack

end Shadow

end TemplateTrace
