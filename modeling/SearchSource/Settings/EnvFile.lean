import SearchSource.Settings.Environment

/-! Files of environment variables, one `KEY=VALUE` a line. Settings take any `FileReader`;
`EnvFile.read` is the one that is installed. `bindings` reads the lines of a file, `values` puts
variables for the references in them, and `apply` changes an environment. -/
namespace SearchSource

/-- What reads a file, by its content if it is there, into an environment. What is set already
stays, unless the file is to override it. -/
abbrev FileReader := Option String → (override : Bool) → Environment → Except Failure Environment

namespace EnvFile
open SearchSource.Text

/-- A variable that a line names, with the value that it gives to it, if any. -/
structure Binding where
  key : String
  value : Option String
deriving DecidableEq, Repr

/-! ### Lines -/

/-- The three ways to end a line become one. -/
def alikeLines : List Char → List Char
  | '\r' :: '\n' :: cs => '\n' :: alikeLines cs
  | c :: cs => (if c = '\r' then '\n' else c) :: alikeLines cs
  | [] => []

/-- The characters of a file. A mark of the order of bytes at the front is none of them. -/
def characters (content : String) : List Char :=
  alikeLines (if content.toList.head? = some '\ufeff' then content.toList.drop 1
    else content.toList)

def isSpace (c : Char) : Bool := isBlank c && c ≠ '\n'

def nextLine (cs : List Char) : List Char := (cs.dropWhile (· ≠ '\n')).drop 1

/-- What follows the line, if it holds nothing more than a comment. -/
def endOfLine? (cs : List Char) : Option (List Char) :=
  match cs.dropWhile isSpace with
  | [] => some []
  | c :: rest => if c = '#' then some (nextLine rest) else if c = '\n' then some rest else none

/-- The key without a word that exports it. -/
def dropExport (cs : List Char) : List Char :=
  let word := "export".toList
  if word.isPrefixOf cs ∧ (cs.drop word.length).head?.any isSpace then
    (cs.drop word.length).dropWhile isSpace
  else cs

/-- A key, in single quotes or without blanks in it, and what follows it. -/
def key? (cs : List Char) : Option (List Char × List Char) :=
  let found := match cs with
    | '\'' :: rest => breakAt? '\'' rest
    | _ =>
      let key := cs.takeWhile fun c => c ≠ '=' && c ≠ '#' && !isBlank c
      some (key, cs.drop key.length)
  found.filter fun p => p.1 ≠ []

/-! ### Values -/

/-- What stands before the closing quote and behind it. Behind a backslash a quote closes only if no
later one does. -/
def closing? (quote : Char) : List Char → Option (List Char × List Char)
  | [] => none
  | '\\' :: c :: cs =>
    if c = quote then
      match closing? quote cs with
      | some (inside, rest) => some ('\\' :: c :: inside, rest)
      | none => some (['\\'], cs)
    else (closing? quote (c :: cs)).map fun p => ('\\' :: p.1, p.2)
  | c :: cs =>
    if c = quote then some ([], cs) else (closing? quote cs).map fun p => (c :: p.1, p.2)

def escaped? (quote c : Char) : Option Char :=
  if c = '\\' ∨ c = '\'' then some c
  else if quote = '\'' then none
  else match c with
    | '"' => some '"'
    | 'a' => some '\x07'
    | 'b' => some '\x08'
    | 'f' => some '\x0c'
    | 'n' => some '\n'
    | 'r' => some '\r'
    | 't' => some '\t'
    | 'v' => some '\x0b'
    | _ => none

/-- A quoted text without its backslashes; one before any other character stays. -/
def unescape (quote : Char) : List Char → List Char
  | '\\' :: c :: cs => match escaped? quote c with
    | some d => d :: unescape quote cs
    | none => '\\' :: unescape quote (c :: cs)
  | c :: cs => c :: unescape quote cs
  | [] => []

/-- Blanks and what follows a mark after them do not belong to a value. -/
def dropComment : List Char → List Char
  | [] => []
  | c :: cs =>
    if isBlank c ∧ (cs.dropWhile isBlank).head? = some '#' then [] else c :: dropComment cs

/-- The value behind a sign and what follows it; or what is left where a quote is not closed. -/
def value (cs : List Char) : Except (List Char) (List Char × List Char) :=
  let quoted (quote : Char) (body : List Char) :=
    match closing? quote body with
    | some (inside, rest) => .ok (unescape quote inside, rest)
    | none => .error body
  match cs.dropWhile isSpace with
  | '\'' :: body => quoted '\'' body
  | '"' :: body => quoted '"' body
  | _ => .ok (trim isBlank (dropComment (cs.takeWhile (· ≠ '\n'))), cs.dropWhile (· ≠ '\n'))

/-! ### Bindings -/

/-- The binding that comes first, if it is not a comment that does, and what follows its line; or
what is left at the place of a fault. -/
def binding (cs : List Char) : Except (List Char) (Option Binding × List Char) :=
  let cs := dropExport cs
  let finish (key : List Char) (value : Option (List Char)) (rest : List Char) :=
    match endOfLine? rest with
    | some rest => .ok (some ⟨String.ofList key, value.map String.ofList⟩, rest)
    | none => .error rest
  if cs.head? = some '#' then .ok (none, nextLine cs)
  else match key? cs with
    | none => .error cs
    | some (key, rest) =>
      match rest.dropWhile isSpace with
      | '=' :: rest => do
        let (v, rest) ← value rest
        finish key (some v) rest
      | rest => finish key none rest

/-- All bindings in at most `lines` lines. A line with a fault is passed over. -/
def bindings (lines : Nat) (cs : List Char) : List Binding :=
  match lines, cs.dropWhile isBlank with
  | 0, _ => []
  | _ + 1, [] => []
  | n + 1, c :: cs => match binding (c :: cs) with
    | .ok (b, rest) => b.toList ++ bindings n rest
    | .error rest => bindings n (nextLine rest)

/-! ### References to variables -/

/-- A variable that a value refers to, what stands for it if there is no such variable, and how many
characters the reference has behind its sign. -/
structure Reference where
  name : String
  otherwise : String
  length : Nat

/-- A name in braces, and what to take otherwise behind `:-`. -/
def reference? : List Char → Option Reference
  | '\x7b' :: cs =>
    let name := cs.takeWhile fun c => c ≠ '\x7d' && c ≠ ':'
    match cs.drop name.length with
    | '\x7d' :: _ => some ⟨String.ofList name, "", name.length + 2⟩
    | ':' :: '-' :: rest =>
      let otherwise := rest.takeWhile (· ≠ '\x7d')
      if otherwise.length < rest.length then
        some ⟨String.ofList name, String.ofList otherwise, name.length + otherwise.length + 4⟩
      else none
    | _ => none
  | _ => none

/-- A value with texts for its references; `skip` characters belong to one that is already
settled. -/
def expand (resolve : Reference → String) (skip : Nat) : List Char → List Char
  | [] => []
  | c :: cs => match skip with
    | n + 1 => expand resolve n cs
    | 0 => match (if c = '$' then reference? cs else none) with
      | some r => (resolve r).toList ++ expand resolve r.length cs
      | none => c :: expand resolve 0 cs

/-- The text of a reference. What is set in the environment counts before the file, unless the file
overrides it. -/
def resolve (override : Bool) (env : Environment) (known : Entries (Option String))
    (r : Reference) :
    String :=
  let inFile := (known.lookup r.name).map (·.getD "")
  let outside := env.lookup r.name
  (if override then inFile.or outside else outside.or inFile).getD r.otherwise

/-- The variables of a file with their values, each with references to those before it; the last
line of a key counts. -/
def values (override : Bool) (env : Environment) (bs : List Binding) : Entries (Option String) :=
  bs.foldl (fun known b =>
    let v := b.value.map fun v =>
      String.ofList (expand (resolve override env known) 0 v.toList)
    Entries.put b.key v known) []

/-! ### Environments -/

/-- A variable has no sign in its name, and no zero character anywhere. -/
def canBeSet (key value : String) : Bool :=
  !key.toList.contains '=' && !key.toList.contains '\x00' && !value.toList.contains '\x00'

/-- An environment after variables are put into it: what is set stays, unless it is overridden, and
a variable without a value changes nothing. -/
def setAll (override : Bool) : Entries (Option String) → Environment → Except Fault Environment
  | [], env => .ok env
  | (_, none) :: vs, env => setAll override vs env
  | (key, some value) :: vs, env =>
    if !override && Entries.has key env then setAll override vs env
    else if canBeSet key value then setAll override vs (Entries.put key value env)
    else .error .badContent

/-- The variable that keeps files from being read, if it says yes. -/
def switch : String := "PYTHON_DOTENV_DISABLED"

def switchWords : List String := ["1", "true", "t", "yes", "y"]

/-- Whether files are not to be read. A long letter is the same as a short one. -/
def isDisabled (env : Environment) : Bool :=
  match env.lookup switch with
  | some v => switchWords.contains (lower (v.map fun c => if c = 'ſ' then 's' else c))
  | none => false

def apply (content : String) (override : Bool) (env : Environment) : Except Fault Environment :=
  if isDisabled env then .ok env
  else
    let cs := characters content
    setAll override (values override env (bindings (cs.length + 1) cs)) env

/-- A file that is not there changes nothing. -/
def read : FileReader
  | none, _, env => .ok env
  | some content, override, env => match apply content override env with
    | .ok env => .ok env
    | .error f => .error (.unfit f)

end EnvFile
end SearchSource
