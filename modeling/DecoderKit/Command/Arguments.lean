import DecoderKit.Command.Outcome

/-!
# Command line arguments

Arguments are byte strings. An option starts with two hyphens and is written out
in full. It is either a switch, which takes no value, or it takes one: behind an
equals sign, or as the next argument. Everything else is an operand, and behind a
bare `--` everything is. A word that looks like an option is never taken for the
value of one, nor for an operand before `--`; a single hyphen does not look like
an option.

The words are read from the left. No option may be given twice, and where help is asked
for the reading ends, also by `-h`.
-/

namespace DecoderKit.Command

/-- Whether an option takes a value. -/
inductive Arity
  | switch
  | value
  /-- The option asks for help. -/
  | help
deriving DecidableEq, Repr

/-- The options of a tool. -/
abbrev Options := List (String × Arity)

/-- Arguments that have been read. -/
structure Arguments where
  /-- The options in the order given, with their values. -/
  options : List (String × Option Bytes) := []
  /-- The arguments that belong to no option. -/
  operands : List Bytes := []
deriving DecidableEq, Repr

/-- Why words are not read to their end. -/
inductive Stop
  /-- Help is asked for. -/
  | help
  /-- The words are misused. -/
  | misuse
deriving DecidableEq, Repr

/-- The hyphen. -/
def hyphen : UInt8 := 0x2d

/-- The equals sign. -/
def equalsSign : UInt8 := 0x3d

/-- Whether a word starts like an option. -/
def looksLikeOption : Bytes → Bool
  | first :: _ :: _ => first = hyphen
  | _ => false

/-- An option's word behind its hyphens: the name, and the value behind an equals sign. -/
def nameAndValue (word : Bytes) : Bytes × Option Bytes :=
  match word.dropWhile (· ≠ equalsSign) with
  | [] => (word, none)
  | _ :: value => (word.takeWhile (· ≠ equalsSign), some value)

/-- The option of a name. -/
def option? (options : Options) (name : Bytes) : Option (String × Arity) :=
  options.find? fun option => Utf8.encode option.1.toList = name

namespace Arguments

/-- Whether an option is given. -/
def has (given : Arguments) (name : String) : Bool := given.options.any (·.1 = name)

/-- The value of an option. -/
def value? (given : Arguments) (name : String) : Option Bytes :=
  (given.options.lookup name).bind id

/-- The path that an option names, if it is given; an empty path is refused. -/
def path? (given : Arguments) (name : String) : Option (Option Path) :=
  match given.value? name with
  | none => some none
  | some bytes => if bytes = [] then none else some (some ⟨bytes⟩)

/-- Arguments with one option more. It must not be there already. -/
def withOption (name : String) (value : Option Bytes) (given : Arguments) :
    Except Stop Arguments :=
  if given.has name then .error .misuse
  else .ok { given with options := given.options ++ [(name, value)] }

/-- Arguments with more operands. -/
def withOperands (operands : List Bytes) (given : Arguments) : Arguments :=
  { given with operands := given.operands ++ operands }

/-- Reads words by the options of a tool, when some arguments have been given already. -/
def read (options : Options) (given : Arguments) : List Bytes → Except Stop Arguments
  | [] => .ok given
  | word :: rest =>
    match word with
    | [0x2d, 0x2d] => .ok (given.withOperands rest)
    | 0x2d :: 0x2d :: body =>
      match option? options (nameAndValue body).1, (nameAndValue body).2 with
      | some (_, .help), none => .error .help
      | some (name, .switch), none => do
        let given ← given.withOption name none
        read options given rest
      | some (name, .value), some value => do
        let given ← given.withOption name (some value)
        read options given rest
      | some (name, .value), none =>
        match rest with
        | [] => .error .misuse
        | value :: rest =>
          if looksLikeOption value then .error .misuse
          else do
            let given ← given.withOption name (some value)
            read options given rest
      | _, _ => .error .misuse
    | 0x2d :: 0x68 :: _ => .error .help
    | operand =>
      if looksLikeOption operand then .error .misuse
      else read options (given.withOperands [operand]) rest

end Arguments

end DecoderKit.Command
