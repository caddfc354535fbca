import CodeAudit.Text.Digit

/-!
# Grammars of Command Lines

Reading the arguments of a command.

A command has flags, which start with a dash, and arguments without one. A flag of several
letters can be cut short as long as no other flag starts in the same way, and can be given
its argument behind an equals sign. Flags of one letter can be written together. Behind two
dashes that stand alone everything is an argument, and so is a number with a minus sign and
anything with a space in it that does not start like a flag.

Arguments that do not belong to a flag go to the command: to its one optional argument, or
to a command within the command, which takes all that follows. What nobody takes is strange.
It makes the command line wrong, but only when all of it has been read, so that a request
for help comes first.

Reading goes from left to right, and each flag takes effect when it is met. What a flag does
is a step on a state that is chosen by the grammar.

## Main definitions

* `Arguments.Stop`: Why reading ends early.
* `Arguments.Flag`, `Arguments.Operand`, `Arguments.Grammar`: What a command takes.
* `Arguments.classify`: The arguments as flags and others.
* `Arguments.Grammar.read`: Reads the arguments of a command.
-/

namespace CodeAudit

namespace Arguments

/-- Why reading ends early. -/
inductive Stop
  /-- The user asks how the program is used. -/
  | help
  /-- The user asks for the version of the program. -/
  | version
  /-- The command line is wrong. -/
  | wrong
deriving DecidableEq, Repr

/-- How many arguments a flag takes: none, one, or one and all that follow it. -/
inductive Arity
  | none
  | one
  | many
deriving DecidableEq, Repr

/-- A flag: the ways to write it, the arguments it takes, and what it does with them. -/
structure Flag (σ : Type) where
  names : List String
  arity : Arity
  effect : List String → σ → Except Stop σ

/-- What becomes of arguments that do not belong to a flag. -/
inductive Operand (σ : Type)
  /-- One of them is taken. -/
  | optional (effect : String → σ → σ)
  /-- The first of them is a command, which takes all that follows. -/
  | command (effect : String → List String → σ → Except Stop σ)

/-- What a command takes. -/
structure Grammar (σ : Type) where
  flags : List (Flag σ)
  operand : Operand σ

variable {σ : Type}

/-- What follows a flag in the same argument. It can be told apart by an equals sign. -/
structure Attached where
  equals : Bool
  text : List Char

/-- What an argument is. -/
inductive Kind (σ : Type)
  | plain
  /-- Two dashes that stand alone. -/
  | dashes
  | flag (f : Flag σ) (isShort : Bool) (attached : Option Attached)
  /-- It looks like a flag and is none. -/
  | strange

/-- An argument is a flag or looks like one. -/
def Kind.isFlag : Kind σ → Bool
  | .flag .. | .strange => true
  | _ => false

/-- An argument is neither a flag nor two dashes. -/
def Kind.isPlain : Kind σ → Bool
  | .plain => true
  | _ => false

/-- The flag with a name. -/
def Grammar.find? (g : Grammar σ) (name : List Char) : Option (Flag σ) :=
  g.flags.find? fun f => f.names.any fun n => n.toList == name

/-- An argument starts with two dashes. -/
def isLong (arg : List Char) : Bool :=
  ['-', '-'].isPrefixOf arg

/-- What stands before an equals sign, and what follows it. -/
def splitEquals : List Char → List Char × Option (List Char)
  | [] => ([], none)
  | c :: rest =>
    if c == '=' then ([], some rest)
    else
      let (name, value) := splitEquals rest
      (c :: name, value)

/-- What follows an equals sign, as something attached to a flag. -/
def behindEquals (value : Option (List Char)) : Option Attached :=
  value.map fun text => ⟨true, text⟩

/-- The ways to write flags that start with a text, with their flags. -/
def Grammar.startingWith (g : Grammar σ) (start : List Char) : List (Flag σ) :=
  g.flags.flatMap fun f =>
    (f.names.filter fun n => start.isPrefixOf n.toList).map fun _ => f

/-- The flags an argument that is no flag as it stands can be short for. -/
def Grammar.shortFor (g : Grammar σ) (arg : List Char) : List (Kind σ) :=
  if isLong arg then
    let (name, value) := splitEquals arg
    (g.startingWith name).map fun f => .flag f false (behindEquals value)
  else
    -- One dash: the first letter may be a flag with something attached, and the whole may be a
    -- name.
    let letter := (g.find? (arg.take 2)).toList.map fun f =>
      Kind.flag f true (some ⟨false, arg.drop 2⟩)
    let others := (g.startingWith arg).map fun f => Kind.flag f false none
    letter ++ others

/-- An argument is a number with a minus sign. One line feed may follow. -/
def isNegativeNumber (arg : List Char) : Bool :=
  match arg with
  | '-' :: rest =>
    -- The end of the text is looked for, and a line feed at the very end is not minded.
    let body := if rest.getLast? == some '\n' then rest.dropLast else rest
    let whole := body.takeWhile isDecimal
    match body.dropWhile isDecimal with
    | [] => !whole.isEmpty
    | '.' :: fraction => !fraction.isEmpty && fraction.all isDecimal
    | _ => false
  | _ => false

/-- What an argument that starts with a dash is. -/
def Grammar.classifyDashed (g : Grammar σ) (arg : List Char) : Except Stop (Kind σ) :=
  match g.find? arg with
  | some f => .ok (.flag f (!isLong arg) none)
  | none =>
    let (name, value) := splitEquals arg
    -- The part behind the first equals sign is attached only where a flag stands in front of
    -- it.
    match value, g.find? name with
    | some text, some f => .ok (.flag f (!isLong name) (some ⟨true, text⟩))
    | _, _ =>
      match g.shortFor arg with
      -- More than one flag could be meant.
      | _ :: _ :: _ => .error .wrong
      | [kind] => .ok kind
      -- A text with a space in it was hardly meant as a flag.
      | [] => .ok (if isNegativeNumber arg || arg.contains ' ' then .plain else .strange)

/-- What an argument is that does not stand behind two dashes. -/
def Grammar.classifyOne (g : Grammar σ) (arg : List Char) : Except Stop (Kind σ) :=
  match arg with
  | '-' :: _ :: _ => g.classifyDashed arg
  | _ => .ok .plain

/-- What arguments are. Nothing behind two dashes is a flag. -/
def Grammar.classify (g : Grammar σ) : List String → Except Stop (List (String × Kind σ))
  | [] => .ok []
  | arg :: rest =>
    if arg == "--" then .ok ((arg, .dashes) :: rest.map fun a => (a, .plain))
    else do
      let kind ← g.classifyOne arg.toList
      return (arg, kind) :: (← classify g rest)

/-- What has been read so far. -/
structure Progress (σ : Type) where
  state : σ
  /-- The argument of the command, or the command within it, has been met. -/
  taken : Bool
  /-- Something that nobody takes has been met. -/
  strange : Bool

/-- A flag with its arguments. -/
abbrev Use (σ : Type) := Flag σ × List String

/-- The flags in one argument: those with their arguments, the last one if its arguments
    follow, and whether something strange is left. -/
structure Cluster (σ : Type) where
  uses : List (Use σ)
  last : Option (Flag σ)
  strange : Bool

/-- The flags in one argument, given the first of them and what is attached to it. The
    attached text is the argument of the flag, or holds more flags of one letter. -/
def Grammar.cluster (g : Grammar σ) (f : Flag σ) (isShort equals : Bool) :
    List Char → Except Stop (Cluster σ)
  | [] =>
    match f.arity with
    -- An empty argument is attached, which this flag does not take.
    | .none => .error .wrong
    | _ => .ok ⟨[(f, [""])], none, false⟩
  | c :: rest =>
    match f.arity with
    | .none =>
      -- Only flags of one letter can stand together, and only without an equals sign.
      if !isShort || equals || c == '-' then .error .wrong
      else
        match g.find? ['-', c], rest with
        -- What no flag is found for is left over. The flag in front of it is used all the same.
        | none, _ => .ok ⟨[(f, [])], none, true⟩
        | some next, [] => .ok ⟨[(f, [])], some next, false⟩
        | some next, '=' :: more => do
          let found ← g.cluster next true true more
          return { found with uses := (f, []) :: found.uses }
        | some next, rest => do
          let found ← g.cluster next true false rest
          return { found with uses := (f, []) :: found.uses }
    -- All that is attached is the one argument, whatever it looks like.
    | _ => .ok ⟨[(f, [String.ofList (c :: rest)])], none, false⟩
termination_by cs => cs.length

/-- Lets flags take effect one after the other. -/
def applyUses (s : σ) : List (Use σ) → Except Stop σ
  | [] => .ok s
  | (f, args) :: rest => do
    let s ← f.effect args s
    applyUses s rest

/-- The arguments of a flag at the front of what follows it, and what is left. -/
def takeArguments (f : Flag σ) (rest : List (String × Kind σ)) :
    Except Stop (List String × List (String × Kind σ)) :=
  match f.arity with
  | .none => .ok ([], rest)
  | .one =>
    match rest with
    | (arg, .plain) :: rest => .ok ([arg], rest)
    | _ => .error .wrong
  | .many =>
    match rest.takeWhile fun t => t.2.isPlain with
    | [] => .error .wrong
    | args => .ok (args.map Prod.fst, rest.dropWhile fun t => t.2.isPlain)

/-- The flags of an argument that is a flag. -/
def Grammar.usesOf (g : Grammar σ) (f : Flag σ) (isShort : Bool) :
    Option Attached → Except Stop (Cluster σ)
  | none => .ok ⟨[], some f, false⟩
  | some a => g.cluster f isShort a.equals a.text

/-- The arguments at the end, where no flag follows. The command takes what it can. -/
def Grammar.finish (g : Grammar σ) (rest : List (String × Kind σ)) (p : Progress σ) :
    Except Stop (Progress σ) :=
  if p.taken then .ok { p with strange := p.strange || !rest.isEmpty }
  else
    match g.operand, rest with
    | .optional _, [] => .ok p
    -- Two dashes right behind the operand are taken with it.
    | .optional effect, (arg, .plain) :: (_, .dashes) :: more =>
      .ok ⟨effect arg p.state, true, p.strange || !more.isEmpty⟩
    | .optional effect, (arg, .plain) :: more =>
      .ok ⟨effect arg p.state, true, p.strange || !more.isEmpty⟩
    -- Two dashes alone are no operand.
    | .optional _, [_] => .ok p
    | .optional effect, _ :: (arg, _) :: more =>
      .ok ⟨effect arg p.state, true, p.strange || !more.isEmpty⟩
    | .command _, [] => .ok p
    | .command _, [(_, .dashes)] => .ok { p with strange := true }
    | .command effect, (name, _) :: more => do
      return ⟨← effect name (more.map Prod.fst) p.state, true, p.strange⟩

/-- Reads classified arguments from left to right. -/
def Grammar.run (g : Grammar σ) :
    Nat → List (String × Kind σ) → Progress σ → Except Stop (Progress σ)
  | 0, _, p => .ok p
  | fuel + 1, tokens, p =>
    match tokens with
    | (_, .flag f isShort attached) :: rest => do
      let found ← g.usesOf f isShort attached
      let (more, rest) ←
        -- A flag at the end of the argument takes what follows it, unless something was
        -- attached.
        match found.last with
        | some last => do
          let (args, rest) ← takeArguments last rest
          pure ([(last, args)], rest)
        | none => pure ([], rest)
      -- The flags of one argument take effect together, after their arguments have been found.
      let state ← applyUses p.state (found.uses ++ more)
      g.run fuel rest { p with state, strange := p.strange || found.strange }
    | (_, .strange) :: rest => g.run fuel rest { p with strange := true }
    | [] => g.finish [] p
    | (arg, kind) :: rest =>
      -- An operand is taken at once if flags follow. What is left over is dropped up to the
      -- next flag.
      if rest.any fun t => t.2.isFlag then
        if p.taken then
          g.run fuel (rest.dropWhile fun t => !t.2.isFlag) { p with strange := true }
        else
          match g.operand with
          | .optional effect =>
            g.run fuel rest { p with state := effect arg p.state, taken := true }
          | .command effect => do
            -- The command takes everything that follows, flags included.
            return ⟨← effect arg (rest.map Prod.fst) p.state, true, p.strange⟩
      else g.finish ((arg, kind) :: rest) p

/-- Reads the arguments of a command. -/
def Grammar.read (g : Grammar σ) (args : List String) (start : σ) :
    Except Stop (Progress σ) := do
  let tokens ← g.classify args
  g.run (tokens.length + 1) tokens ⟨start, false, false⟩

end Arguments

end CodeAudit
