import ApiDocs.Source.Lexer

/-!
Readers of token sequences.  A reader matches at its position, does not match, or refuses the text
for good.  In each case the furthest token that was looked at is known, because an error is
reported there.
-/

namespace ApiDocs.Source

/-- What readers read from.  When a text has been found wrong it is read again while `diagnosing`,
with rules that recognise common mistakes. -/
structure Input where
  scan : Scan
  diagnosing : Bool

/-- Why a text is refused: no token could be read, or a rule found an error on a line. -/
inductive Refusal where
  | scanner
  | rule (line : Nat)

inductive Outcome (α : Type) where
  | matched (value : α) (position furthest : Nat)
  | mismatch (furthest : Nat)
  | refused (refusal : Refusal) (furthest : Nat)

/-- A reader, given the input, its position and the furthest token looked at before. -/
def Reader (α : Type) := Input → Nat → Nat → Outcome α

namespace Reader

@[inline] def pure {α : Type} (value : α) : Reader α :=
  fun _ position furthest => .matched value position furthest

@[inline] def bind {α β : Type} (first : Reader α) (next : α → Reader β) : Reader β :=
  fun input position furthest =>
    match first input position furthest with
    | .matched value position furthest => next value input position furthest
    | .mismatch furthest => .mismatch furthest
    | .refused refusal furthest => .refused refusal furthest

instance : Monad Reader where
  pure := Reader.pure
  bind := Reader.bind

/-- No match. -/
def mismatch {α : Type} : Reader α := fun _ _ furthest => .mismatch furthest

/-- Refuses the text with an error on a line. -/
def refuse {α : Type} (line : Nat) : Reader α := fun _ _ furthest => .refused (.rule line) furthest

/-- Tries the second reader at the same position where the first does not match. -/
@[inline] def orElse {α : Type} (first second : Reader α) : Reader α :=
  fun input position furthest =>
    match first input position furthest with
    | .matched value position furthest => .matched value position furthest
    | .mismatch furthest => second input position furthest
    | .refused refusal furthest => .refused refusal furthest

/-- Reads something that may be missing. -/
@[inline] def optional {α : Type} (reader : Reader α) : Reader (Option α) :=
  orElse (reader >>= fun value => Reader.pure (some value)) (Reader.pure none)

/-- The result of a reader that matches here, without going on. -/
@[inline] def ahead {α : Type} (reader : Reader α) : Reader (Option α) :=
  fun input position furthest =>
    match reader input position furthest with
    | .matched value _ furthest => .matched (some value) position furthest
    | .mismatch furthest => .matched none position furthest
    | .refused refusal furthest => .refused refusal furthest

def isDiagnosing : Reader Bool :=
  fun input position furthest => .matched input.diagnosing position furthest

/-- Reads without recognising mistakes. -/
@[inline] def plainly {α : Type} (reader : Reader α) : Reader α :=
  fun input => reader { input with diagnosing := false }

/-- Where mistakes are recognised, an additional check that goes no further. -/
@[inline] def diagnose (check : Reader Unit) : Reader Unit :=
  isDiagnosing >>= fun diagnosing =>
    if diagnosing then ahead check >>= fun _ => Reader.pure () else Reader.pure ()

/-- Refuses the text with an error on the line of the furthest token that was looked at. -/
def refuseFurthest {α : Type} : Reader α :=
  fun input _ furthest =>
    .refused (.rule ((input.scan.tokens[furthest]?).elim 0 Token.line)) furthest

/-! ## Tokens -/

/-- The token here. -/
def token : Reader Token :=
  fun input position furthest =>
    let furthest := max furthest position
    match input.scan.tokens[position]? with
    | some token => .matched token position furthest
    | none => .refused .scanner furthest

def lexeme : Reader Lexeme := token >>= fun token => Reader.pure token.lexeme

/-- The line of the token here. -/
def line : Reader Nat := token >>= fun token => Reader.pure token.line

/-- Goes past the token here. -/
def advance : Reader Unit := fun _ position furthest => .matched () (position + 1) furthest

/-- The token before this one. -/
def previous? : Reader (Option Token) :=
  fun input position furthest =>
    .matched (if position = 0 then none else input.scan.tokens[position - 1]?) position furthest

/-- Whether a token follows; if so it is read. -/
def accept (expected : Lexeme) : Reader Bool :=
  lexeme >>= fun found =>
    if found = expected then advance >>= fun _ => Reader.pure true else Reader.pure false

def expect (expected : Lexeme) : Reader Unit :=
  accept expected >>= fun found => if found then Reader.pure () else mismatch

def symbol (spelling : String) : Reader Unit := expect (.symbol spelling)

def keyword (spelling : String) : Reader Unit := expect (.word spelling)

/-- Whether a token is here; it is not read. -/
def isNext (expected : Lexeme) : Reader Bool :=
  lexeme >>= fun found => Reader.pure (found = expected)

/-- Refuses the text unless the token is here. -/
def require (expected : Lexeme) : Reader Unit :=
  token >>= fun found => if found.lexeme = expected then advance else refuse found.line

/-! ## Repetition -/

/-- Repeats a step until it gives a result; the first argument bounds the number of steps. -/
def iterateUpTo {σ β : Type} : Nat → (σ → Reader (σ ⊕ β)) → σ → Reader β
  | 0, _, _ => mismatch
  | bound + 1, step, state => fun input position furthest =>
    match step state input position furthest with
    | .matched (.inl state) position furthest =>
      iterateUpTo bound step state input position furthest
    | .matched (.inr value) position furthest => .matched value position furthest
    | .mismatch furthest => .mismatch furthest
    | .refused refusal furthest => .refused refusal furthest

/-- Repeats a step that reads at least one token each time. -/
def iterate {σ β : Type} (step : σ → Reader (σ ⊕ β)) (state : σ) : Reader β :=
  fun input => iterateUpTo (input.scan.tokens.size + 2) step state input

/-- Reads as many items as follow. -/
def many {α : Type} (item : Reader α) : Reader (List α) :=
  iterate (fun items => do
    match ← optional item with
    | some value => Reader.pure (.inl (value :: items))
    | none => Reader.pure (.inr items.reverse)) []

/-- Reads one item at least. -/
def many1 {α : Type} (item : Reader α) : Reader (List α) := do
  let first ← item
  let others ← many item
  Reader.pure (first :: others)

/-- Items after a first one, each behind a comma; the flag says whether a comma is left over at
the end. -/
def furtherItems {α : Type} (item : Reader α) : Reader (List α × Bool) :=
  iterate (fun items => do
    if ← accept (.symbol ",") then
      match ← optional item with
      | some value => Reader.pure (.inl (value :: items))
      | none => Reader.pure (.inr (items.reverse, true))
    else Reader.pure (.inr (items.reverse, false))) []

/-- One item at least, separated by commas; a comma may end them. -/
def commaItems {α : Type} (item : Reader α) : Reader (List α) := do
  let first ← item
  let (others, _) ← furtherItems item
  Reader.pure (first :: others)

/-- One item at least, separated by commas, none at the end. -/
def strictItems {α : Type} (item : Reader α) : Reader (List α) := do
  let first ← item
  let others ← many (symbol "," >>= fun _ => item)
  Reader.pure (first :: others)

end Reader

/-! ## Reading a text -/

/-- The line to report when a rule or the furthest token says `line`: a decisive fault of the
tokens comes first, and so does a bracket that is left open before that line. -/
def reportedLine (scan : Scan) (line furthestLine : Nat) : Nat :=
  match scan.fault with
  | none => line
  | some fault =>
    if fault.decisive then fault.line
    else
      match fault.openBracket with
      | some bracket => if bracket < furthestLine then bracket else line
      | none => line

/-- The line of a fault at which the tokens end: an open bracket is named instead of the end. -/
def faultLine (scan : Scan) : Nat := (scan.fault.elim 0 Fault.line)

def lineOfToken (scan : Scan) (index : Nat) : Nat := (scan.tokens[index]?).elim 0 Token.line

/-- The line of an error, from the furthest token of the first reading and the outcome of the
second, diagnosing one. -/
def errorLine {α : Type} (scan : Scan) (furthest : Nat) (diagnosis : Outcome α) : Nat :=
  match diagnosis with
  | .refused .scanner _ => faultLine scan
  | .refused (.rule line) reached => reportedLine scan line (lineOfToken scan reached)
  | .matched _ _ reached | .mismatch reached =>
    let line := lineOfToken scan furthest
    match (scan.tokens[furthest]?).map Token.lexeme with
    | some .indent | some .dedent => line
    | _ => reportedLine scan line (lineOfToken scan reached)

/-- Reads a text whose first line has the given number; an error is the line that it is reported
on. -/
def readText {α : Type} (reader : Reader α) (text : List Char) (line : Nat) : Except Nat α :=
  let scan := scan text line
  match reader { scan, diagnosing := false } 0 0 with
  | .matched value _ _ => .ok value
  | .refused .scanner _ => .error (faultLine scan)
  | .refused (.rule line) furthest => .error (reportedLine scan line (lineOfToken scan furthest))
  | .mismatch furthest =>
    .error (errorLine scan furthest (reader { scan, diagnosing := true } 0 furthest))

end ApiDocs.Source
