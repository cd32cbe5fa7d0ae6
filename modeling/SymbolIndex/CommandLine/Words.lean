import SymbolIndex.Text.Basic

/-!
# Words on a command line

A command line is a list of words. A word of several characters that starts with a dash is an
option: a long one stands alone or before an equals sign and its value, short ones can be grouped,
and an option that takes a value takes the rest of its word or, if there is none, the next word
whatever it looks like. Two dashes alone end the options.
-/

namespace SymbolIndex.CommandLine

/-- Why words do not form a command line. -/
inductive Misuse where
  /-- There is no such option. -/
  | noSuchOption (word : Text)
  /-- A value is given to an option that takes none. -/
  | unexpectedValue (word : Text)
  /-- An option lacks its value. -/
  | missingValue (word : Text)
  /-- There is no such command. -/
  | noSuchCommand (word : Text)
  /-- An argument is missing. -/
  | missingArgument (name : Text)
  /-- There are too many arguments. -/
  | extraArgument (word : Text)
  /-- The value of an option is not one of its choices. -/
  | noSuchChoice (word : Text)
  deriving DecidableEq

/-- The wording of a misuse. -/
def Misuse.message : Misuse → Text
  | .noSuchOption w    => "No such option: ".toList ++ w
  | .unexpectedValue w => "Option does not take a value: ".toList ++ w
  | .missingValue w    => "Option requires an argument: ".toList ++ w
  | .noSuchCommand w   => "No such command: ".toList ++ w
  | .missingArgument n => "Missing argument: ".toList ++ n
  | .extraArgument w   => "Got unexpected extra argument: ".toList ++ w
  | .noSuchChoice w    => "Invalid value: ".toList ++ w

/-- How an option is written. -/
structure Switch (ο : Type) where
  /-- The option. -/
  option : ο
  /-- Its long spelling, with two dashes. -/
  long : Text
  /-- Its letter, if it has a short spelling. -/
  short : Option Char
  /-- Whether it takes a value. -/
  takesValue : Bool

/-- One use of an option, with its value if it takes one. -/
structure Use (ο : Type) where
  option : ο
  value : Option Text

/-- What a word says: the options it uses and, when the last one still lacks its value, that
option. -/
structure WordUses (ο : Type) where
  /-- The options used with all they need. -/
  uses : List (Use ο)
  /-- The option that lacks its value. -/
  lacking : Option ο

variable {ο : Type}

/-- Whether a word is an option. -/
def isOption : Text → Bool
  | '-' :: _ :: _ => true
  | _             => false

/-- Read the letters of a word of short options. -/
def readLetters (switches : List (Switch ο)) : Text → Except Misuse (WordUses ο)
  | []     => .ok ⟨[], none⟩
  | c :: r =>
    match switches.find? (·.short == some c) with
    | none   => .error (.noSuchOption ['-', c])
    | some s =>
      if s.takesValue then
        .ok (if r.isEmpty then ⟨[], some s.option⟩ else ⟨[⟨s.option, some r⟩], none⟩)
      else (readLetters switches r).map fun rest => { rest with uses := ⟨s.option, none⟩ :: rest.uses }

/-- The text before the first equals sign, and the text after it if there is one. -/
def cutAtEquals (w : Text) : Text × Option Text :=
  match w.dropWhile (· != '=') with
  | []     => (w, none)
  | _ :: v => (w.takeWhile (· != '='), some v)

/-- Read a word that is an option. -/
def readOption (switches : List (Switch ο)) (w : Text) : Except Misuse (WordUses ο) :=
  let (long, value) := cutAtEquals w
  match switches.find? (·.long == long) with
  | some s =>
    match s.takesValue, value with
    | true, some v  => .ok ⟨[⟨s.option, some v⟩], none⟩
    | true, none    => .ok ⟨[], some s.option⟩
    | false, some _ => .error (.unexpectedValue w)
    | false, none   => .ok ⟨[⟨s.option, none⟩], none⟩
  | none =>
    match w with
    | '-' :: '-' :: _ => .error (.noSuchOption w)
    | _               => readLetters switches w.tail

/-- Two dashes end the options. -/
def endOfOptions : Text := ['-', '-']

/-- Read words: the options used, and the words that are none. Unless options may stand among
other words, the first other word ends them. -/
def scan (switches : List (Switch ο)) (interspersed : Bool) :
    List Text → Except Misuse (List (Use ο) × List Text)
  | []      => .ok ([], [])
  | w :: ws =>
    if w = endOfOptions then .ok ([], ws)
    else if isOption w then
      match readOption switches w with
      | .error m           => .error m
      | .ok ⟨uses, none⟩   =>
        (scan switches interspersed ws).map fun (more, rest) => (uses ++ more, rest)
      | .ok ⟨uses, some o⟩ =>
        match ws with
        | []      => .error (.missingValue w)
        | v :: ws =>
          (scan switches interspersed ws).map fun (more, rest) =>
            (uses ++ ⟨o, some v⟩ :: more, rest)
    else if interspersed then
      (scan switches interspersed ws).map fun (uses, rest) => (uses, w :: rest)
    else .ok ([], w :: ws)

/-- The values given to an option, in order. -/
def valuesOf [DecidableEq ο] (o : ο) (uses : List (Use ο)) : List Text :=
  (uses.filter (·.option = o)).filterMap (·.value)

/-- The value given last to an option. -/
def valueOf? [DecidableEq ο] (o : ο) (uses : List (Use ο)) : Option Text :=
  (valuesOf o uses).getLast?

/-- Whether an option is used. -/
def isUsed [DecidableEq ο] (o : ο) (uses : List (Use ο)) : Bool := uses.any (·.option = o)

end SymbolIndex.CommandLine
