/-!
# Command lines

What the words of a command line ask for. A word is only refused when its turn comes; the value of an
option is looked at when the next option is.
-/

namespace MessageExtraction.Command

/-- Why a command line is not carried out. -/
inductive Usage where
  | invalidSubcommand
  | unknownArgument
  | invalidValue
  | argumentConflict
  | unneededValue
  | displayHelp
  | displayVersion
deriving DecidableEq, Repr, Inhabited

/-- The commands. -/
inductive Name where
  | extract
  | init
deriving DecidableEq, Repr, Inhabited

/-- The options with a value. -/
inductive Key where
  | sourceRoot
  | messagesDir
deriving DecidableEq, Repr, Inhabited

/-- The options of a command. -/
structure Options where
  sourceRoot : Option String := none
  messagesDir : Option String := none
  verbose : Bool := false
deriving DecidableEq, Repr, Inhabited

/-- What a command line asks for. -/
inductive Invocation where
  /-- Nothing: the help is shown. -/
  | help
  | extract (options : Options)
  | init (options : Options)
deriving DecidableEq, Repr, Inhabited

/-- Options read so far, and an option that still waits for its turn, with its value if that has come. -/
structure Reading where
  options : Options := {}
  pending : Option (Key × Option String) := none
deriving DecidableEq, Repr, Inhabited

/-! ## Words -/

/-- The kinds of words. -/
inductive Word where
  /-- Two dashes alone: only plain words follow. -/
  | separator
  /-- Two dashes and a name, with what stands behind an equals sign. -/
  | long (name : String) (value : Option String)
  /-- One dash and letters. -/
  | short (letters : List Char)
  | plain (text : String)
deriving DecidableEq, Repr

/-- The kind of a word. -/
def Word.ofText (text : String) : Word :=
  match text.toList with
  | ['-', '-'] => .separator
  | '-' :: '-' :: r =>
      match r.dropWhile (· != '=') with
      | [] => .long (String.ofList r) none
      | _ :: value => .long (String.ofList (r.takeWhile (· != '='))) (some (String.ofList value))
  | '-' :: c :: r => .short (c :: r)
  | _ => .plain text

/-! ## Options -/

/-- The option of that name. -/
def key? : String → Option Key
  | "source-root" => some .sourceRoot
  | "messages-dir" => some .messagesDir
  | _ => none

/-- Whether the value of an option is a path, which cannot be empty. -/
def takesPath : Name → Key → Bool
  | .init, .messagesDir => false
  | _, _ => true

/-- The value of an option. -/
def Options.get? (options : Options) : Key → Option String
  | .sourceRoot => options.sourceRoot
  | .messagesDir => options.messagesDir

/-- The options with a value for one of them. -/
def Options.set (options : Options) (value : String) : Key → Options
  | .sourceRoot => { options with sourceRoot := some value }
  | .messagesDir => { options with messagesDir := some value }

/-- Gives an option its value. It must have one, not for the second time, and not an empty path. -/
def assign (command : Name) (options : Options) (key : Key) : Option String → Except Usage Options
  | none => .error .invalidValue
  | some value =>
      if (options.get? key).isSome then .error .argumentConflict
      else if value = "" && takesPath command key then .error .invalidValue
      else .ok (options.set value key)

/-- Gives the option that waits its value. -/
def Reading.settle (command : Name) (reading : Reading) : Except Usage Options :=
  match reading.pending with
  | none => .ok reading.options
  | some (key, value) => assign command reading.options key value

/-- Switches the remarks on, which can be done once. -/
def setVerbose (options : Options) : Except Usage Options :=
  if options.verbose then .error .argumentConflict else .ok { options with verbose := true }

/-- Reads a switch written as a letter. -/
def readLetter (command : Name) (reading : Reading) (letter : Char) : Except Usage Reading :=
  match command, letter with
  | .extract, 'v' => do
      let options ← reading.settle command
      let options ← setVerbose options
      .ok ⟨options, none⟩
  | _, 'h' => do
      let _ ← reading.settle command
      .error .displayHelp
  | _, _ => .error .unknownArgument

/-- Reads switches written as letters. -/
def readLetters (command : Name) (reading : Reading) : List Char → Except Usage Reading
  | [] => .ok reading
  | letter :: letters => do readLetters command (← readLetter command reading letter) letters

/-- Reads an option written by its name. -/
def readLong (command : Name) (reading : Reading) (name : String) (value : Option String) :
    Except Usage Reading :=
  match key? name with
  | some key => do
      let options ← reading.settle command
      match value with
      | some value => .ok ⟨← assign command options key (some value), none⟩
      | none => .ok ⟨options, some (key, none)⟩
  | none =>
      if command = .extract ∧ name = "verbose" then
        if value.isSome then .error .unneededValue
        else do
          let options ← reading.settle command
          let options ← setVerbose options
          .ok ⟨options, none⟩
      else if name = "help" then
        if value.isSome then .error .unneededValue
        else do
          let _ ← reading.settle command
          .error .displayHelp
      else .error .unknownArgument

/-- Reads the options of a command. Commands take no other words. -/
def readOptions (command : Name) (reading : Reading) : List String → Except Usage Options
  | [] => reading.settle command
  | word :: words =>
      match Word.ofText word with
      | .separator => if words.isEmpty then reading.settle command else .error .unknownArgument
      | .long name value => do
          readOptions command (← readLong command reading name value) words
      | .short letters => do
          readOptions command (← readLetters command reading letters) words
      | .plain text =>
          match reading.pending with
          | some (key, none) =>
              readOptions command ⟨reading.options, some (key, some text)⟩ words
          | _ => .error .unknownArgument

/-! ## Commands -/

/-- The words that name a command or ask for help on one. -/
def commandWords : List String := ["extract", "init", "help"]

/-- What asking for help on some words gives: help, if they are nothing or one command. -/
def helpOn : List String → Usage
  | [] => .displayHelp
  | [word] => if word ∈ commandWords then .displayHelp else .invalidSubcommand
  | _ => .invalidSubcommand

/-- What a plain word gives where only plain words follow. -/
def strayWord (word : String) : Usage :=
  if word ∈ commandWords then .unknownArgument else .invalidSubcommand

/-- What is wrong with, or asked for by, an option before any command. -/
def optionBeforeCommand (name : String) (value : Option String) : Usage :=
  if name = "help" ∨ name = "version" then
    if value.isSome then .unneededValue
    else if name = "help" then .displayHelp
    else .displayVersion
  else .unknownArgument

/-- What is wrong with, or asked for by, letters before any command. -/
def letterBeforeCommand : List Char → Usage
  | 'h' :: _ => .displayHelp
  | 'V' :: _ => .displayVersion
  | _ => .unknownArgument

/-- Reads a command line. -/
def read : List String → Except Usage Invocation
  | [] => .ok .help
  | "extract" :: words => (readOptions .extract {} words).map .extract
  | "init" :: words => (readOptions .init {} words).map .init
  | "help" :: words => .error (helpOn words)
  | word :: words =>
      match Word.ofText word with
      | .separator =>
          match words with
          | [] => .ok .help
          | word :: _ => .error (strayWord word)
      | .long name value => .error (optionBeforeCommand name value)
      | .short letters => .error (letterBeforeCommand letters)
      | .plain _ => .error .invalidSubcommand

end MessageExtraction.Command
