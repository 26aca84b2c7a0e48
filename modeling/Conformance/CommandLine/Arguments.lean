import Conformance.CommandLine.SchemaSource

/-!
# Command lines

A command line is a list of words: options, the name of a command, options and documents of that
command. Options may come in any order and among the documents, a value may follow its option after
an equals sign or as the next word, and all words behind a double hyphen are documents. An option
with a value may be given once.

* `Conformance.Arguments.parse?` – what a command line asks for.
-/

namespace Conformance

/-- How reports are shown. -/
inductive ReportFormat where
  /-- Lines of text. -/
  | text
  /-- A JSON text. -/
  | json
deriving DecidableEq, Repr

/-- A command. -/
inductive Command where
  /-- Check documents. -/
  | validate (source : SchemaSource) (format : ReportFormat) (documents : List String)
  /-- Show the schema. -/
  | schema (source : SchemaSource)

/-- What a command line asks for. -/
inductive Request where
  /-- The version of the program. -/
  | version
  /-- A description of the command line. -/
  | help
  /-- A command, with the path of a settings file. -/
  | run (settings : Option String) (command : Command)

namespace Arguments

/-! ### Words -/

/-- A word of a command line. -/
inductive Word where
  /-- The double hyphen. -/
  | separator
  /-- A long option, with the value behind its equals sign. -/
  | long (name : String) (value : Option String)
  /-- A cluster of short options. -/
  | short (names : List Char)
  /-- Anything else. -/
  | plain (text : String)

/-- Splits at the first equals sign. -/
def splitEquals (cs : List Char) : String × Option String :=
  match cs.dropWhile (· != '=') with
  | [] => (String.ofList cs, none)
  | _ :: value => (String.ofList (cs.takeWhile (· != '=')), some (String.ofList value))

/-- The kind of a word. A single hyphen is a plain word. -/
def classify (word : String) : Word :=
  match word.toList with
  | ['-', '-'] => .separator
  | '-' :: '-' :: rest =>
    let (name, value) := splitEquals rest
    .long name value
  | '-' :: c :: rest => .short (c :: rest)
  | _ => .plain word

/-- The value of an option: the one behind its equals sign, or the next word if that is a plain one;
also the words that are left. -/
def takeValue (attached : Option String) (rest : List String) : Option (String × List String) :=
  match attached, rest with
  | some value, rest => some (value, rest)
  | none, [] => none
  | none, next :: rest =>
    match classify next with
    | .plain value => some (value, rest)
    | _ => none

/-- The words left behind an option and its value are fewer than before. -/
theorem length_left_lt {attached : Option String} {word : String} {rest : List String}
    {value : String} {left : List String} (h : takeValue attached rest = some (value, left)) :
    left.length < (word :: rest).length := by
  rw [List.length_cons, Nat.lt_succ_iff]
  unfold takeValue at h
  split at h
  · cases h
    exact Nat.le_refl _
  · cases h
  · split at h
    · cases h
      simp
    · cases h

/-- A path is not empty. -/
def path? (value : String) : Option String := if value.isEmpty then none else some value

/-- Sets a value that was not set before. -/
def setOnce {α : Type} (known : Option α) (value : Option α) : Option (Option α) :=
  match known, value with
  | none, some v => some (some v)
  | _, _ => none

/-! ### Options -/

/-- What has been said so far. -/
structure Draft where
  /-- The path of a settings file, said before the command. -/
  outerSettings : Option String
  /-- The path of a settings file, said after the command. -/
  settings : Option String
  /-- Where the type descriptions are. -/
  types : Option String
  /-- The name of the root type. -/
  typeName : Option String
  /-- What holds where a description is silent. -/
  mode : Option Mode
  /-- How reports are shown. -/
  format : Option ReportFormat
  /-- The documents, the last one first. -/
  documents : List String

/-- Nothing said yet. -/
def Draft.empty : Draft := ⟨none, none, none, none, none, none, []⟩

/-- The mode of a word. -/
def mode? (word : String) : Option Mode :=
  if word == "explicit-only" then some .explicitOnly
  else if word == "all-non-nullable" then some .allNonNullable
  else none

/-- The way of showing reports of a word. -/
def format? (word : String) : Option ReportFormat :=
  if word == "text" then some .text
  else if word == "json" then some .json
  else none

/-- The two commands by name. -/
inductive CommandName where
  /-- Check documents. -/
  | validate
  /-- Show the schema. -/
  | schema
deriving DecidableEq

/-- Adds an option of a command with its value; nothing if there is no such option, or it was given
before, or the value is not one of its values. -/
def setOption (c : CommandName) (d : Draft) (name value : String) : Option Draft :=
  if name == "types" then (setOnce d.types (path? value)).map fun v => { d with types := v }
  else if name == "type" then
    (setOnce d.typeName (some value)).map fun v => { d with typeName := v }
  else if name == "default-required" then
    (setOnce d.mode (mode? value)).map fun v => { d with mode := v }
  else if name == "config" then
    (setOnce d.settings (path? value)).map fun v => { d with settings := v }
  else if name == "format" && c == .validate then
    (setOnce d.format (format? value)).map fun v => { d with format := v }
  else none

/-- Adds a document; only one of the commands takes any. -/
def addDocument (c : CommandName) (d : Draft) (word : String) : Option Draft :=
  if c == .validate then (path? word).map fun p => { d with documents := p :: d.documents }
  else none

/-- What has been said behind the name of a command; asking for help ends the command line. -/
inductive Step where
  /-- Words of the command. -/
  | draft (d : Draft)
  /-- A description of the command is asked for. -/
  | help

/-- Short options behind the name of a command. -/
def shortStep (d : Draft) : List Char → Option Step
  | [] => some (.draft d)
  | 'v' :: rest => shortStep d rest
  | 'h' :: _ => some .help
  | _ => none

/-- The words behind the name of a command. -/
def parseCommand (c : CommandName) (d : Draft) : List String → Option Step
  | [] => some (.draft d)
  | word :: rest =>
    match classify word with
    | .plain text => do parseCommand c (← addDocument c d text) rest
    | .separator => (rest.foldlM (addDocument c) d).map .draft
    | .short names =>
      match shortStep d names with
      | some (.draft d) => parseCommand c d rest
      | r => r
    | .long name value =>
      if name == "verbose" then if value.isSome then none else parseCommand c d rest
      else if name == "help" then if value.isSome then none else some .help
      else
        match _h : takeValue value rest with
        | none => none
        | some (value, left) => do parseCommand c (← setOption c d name value) left
termination_by words => words.length
decreasing_by
  all_goals first
    | exact length_left_lt _h
    | simp

/-- The request that the words of a command make. The name of the root type has to be given, and
checking needs a document. -/
def Draft.request? (d : Draft) (c : CommandName) : Option Request := do
  let source : SchemaSource := ⟨d.types, ← d.typeName, d.mode⟩
  let settings := d.settings.or d.outerSettings
  match c with
  | .schema => return .run settings (.schema source)
  | .validate =>
    if d.documents.isEmpty then none
    else return .run settings (.validate source (d.format.getD .text) d.documents.reverse)

/-- The request of a command and its words. -/
def commandRequest? (c : CommandName) (d : Draft) (words : List String) : Option Request :=
  match parseCommand c d words with
  | none => none
  | some .help => some .help
  | some (.draft d) => d.request? c

/-- Short options in front of the name of a command: nothing, or what they ask for at once. -/
def shortRequest? : List Char → Option (Option Request)
  | [] => some none
  | 'v' :: rest => shortRequest? rest
  | 'h' :: _ => some (some .help)
  | 'V' :: _ => some (some .version)
  | _ => none

/-- What the words in front of and behind the name of a command ask for. -/
def parseFrom (d : Draft) : List String → Option Request
  | [] => none
  | word :: rest =>
    match classify word with
    | .plain text =>
      if text == "validate" then commandRequest? .validate d rest
      else if text == "schema" then commandRequest? .schema d rest
      else if text == "help" then some .help
      else none
    | .separator => none
    | .short names =>
      match shortRequest? names with
      | none => none
      | some none => parseFrom d rest
      | some (some r) => some r
    | .long name value =>
      if name == "verbose" then if value.isSome then none else parseFrom d rest
      else if name == "help" then if value.isSome then none else some .help
      else if name == "version" then if value.isSome then none else some .version
      else if name == "config" then
        match _h : takeValue value rest with
        | none => none
        | some (value, left) => do
          let settings ← setOnce d.outerSettings (path? value)
          parseFrom { d with outerSettings := settings } left
      else none
termination_by words => words.length
decreasing_by
  all_goals first
    | exact length_left_lt _h
    | simp

/-- What a command line asks for; nothing if it is faulty. -/
def parse? (words : List String) : Option Request := parseFrom .empty words

end Arguments

end Conformance
