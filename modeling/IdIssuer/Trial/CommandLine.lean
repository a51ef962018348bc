import IdIssuer.Trial.Arguments

/-!
# The command line of a trial

A value follows its flag after an equals sign or as the next word. In the first case it is looked
at where it stands, in the second when the next known flag comes or the words end: an unknown word
that comes before that is what the user hears of. After `--` no word is known.
-/

namespace IdIssuer

namespace Trial

/-- A word of the command line by its shape. -/
inductive Word where
  /-- Two dashes alone. -/
  | escape
  /-- Two dashes and a name, and what follows an equals sign. -/
  | long (name : String) (value : Option String)
  /-- One dash and letters. -/
  | short (letters : List Char)
  | plain (text : String)
deriving Repr, DecidableEq

namespace Word

/-- Splits a name from the value behind the first equals sign. -/
def named (cs : List Char) : Word :=
  let name := String.ofList (cs.takeWhile (· ≠ '='))
  match cs.dropWhile (· ≠ '=') with
  | _ :: value => .long name (some (String.ofList value))
  | [] => .long name none

/-- The shape of a word. -/
def ofString (word : String) : Word :=
  match word.toList with
  | ['-', '-'] => .escape
  | '-' :: '-' :: cs => named cs
  | '-' :: c :: cs => .short (c :: cs)
  | _ => .plain word

end Word

/-- How far the command line has been read. -/
structure Reading where
  given : Given
  /-- A flag whose value has not been looked at, and the value once it has come. -/
  waiting : Option (Setting × Option String)

namespace Reading

/-- Looks at the value that waits. -/
def settle (r : Reading) : Except UsageError Given :=
  match r.waiting with
  | none => .ok r.given
  | some (setting, none) => .error (.missingValue setting)
  | some (setting, some text) => r.given.supply setting text

/-- Looks at the value that waits, and then has something else to say. -/
def settleThen {α : Type} (r : Reading) (error : UsageError) : Except UsageError α :=
  match r.settle with
  | .error earlier => .error earlier
  | .ok _ => .error error

/-- Reads the words that are left. -/
def words (r : Reading) : List String → Except UsageError Given
  | [] => r.settle
  | word :: rest =>
    match Word.ofString word with
    | .escape =>
      match rest with
      | [] => r.settle
      | extra :: _ => .error (.unknownWord extra)
    | .long name value =>
      match Setting.ofFlag? name, value with
      | some setting, some text =>
        match r.settle with
        | .error error => .error error
        | .ok given =>
          match given.supply setting text with
          | .error error => .error error
          | .ok given => words ⟨given, none⟩ rest
      | some setting, none =>
        match r.settle with
        | .error error => .error error
        | .ok given => words ⟨given, some (setting, none)⟩ rest
      | none, some _ =>
        .error
          (if name = "help" ∨ name = "version" then .unneededValue word else .unknownWord word)
      | none, none =>
        if name = "help" then r.settleThen .help
        else if name = "version" then r.settleThen .version
        else .error (.unknownWord word)
    | .short letters =>
      match letters.head? with
      | some 'h' => r.settleThen .help
      | some 'V' => r.settleThen .version
      | _ => .error (.unknownWord word)
    | .plain text =>
      match r.waiting with
      | some (setting, none) => words { r with waiting := some (setting, some text) } rest
      | _ => .error (.unknownWord word)

end Reading

/-- Reads the arguments of a trial from the command line and the environment. -/
def Arguments.read (words : List String) (environment : String → Option String)
    (processors : UInt64) : Except UsageError Arguments :=
  match Reading.words ⟨{}, none⟩ words with
  | .error error => .error error
  | .ok given =>
    match given.complete environment with
    | .error error => .error error
    | .ok given => .ok (given.arguments processors)

end Trial

end IdIssuer
