import ApiDocs.Log.Logger
import ApiDocs.Text.Lines

/-!
Console output: pieces of styled text, and the line that a message or the summary of a run makes.
On a terminal with colours a style is written as an escape sequence; elsewhere it is left out.
-/

namespace ApiDocs

/-- A colour of the terminal. -/
structure Colour where
  red : Nat
  green : Nat
  blue : Nat
deriving DecidableEq, Repr

structure Style where
  bold : Bool
  dim : Bool
  colour : Colour
deriving DecidableEq, Repr

/-- The colours of the program's console output. -/
structure Palette where
  text : Colour
  dimmed : Colour
  muted : Colour
  info : Colour
  success : Colour
  warning : Colour
  error : Colour
deriving DecidableEq, Repr

def palette : Palette where
  text := ⟨0xb8, 0xb8, 0xcc⟩
  dimmed := ⟨0x4a, 0x4a, 0x60⟩
  muted := ⟨0x36, 0x36, 0x48⟩
  info := ⟨0x5a, 0x9c, 0xf0⟩
  success := ⟨0x34, 0xd3, 0x99⟩
  warning := ⟨0xe5, 0xc7, 0x47⟩
  error := ⟨0xe5, 0x5a, 0x6e⟩

namespace Style

def plain (colour : Colour) : Style := { bold := false, dim := false, colour }

def bolded (colour : Colour) : Style := { bold := true, dim := false, colour }

def faint (colour : Colour) : Style := { bold := false, dim := true, colour }

/-- The numbers of the escape sequence that switches a style on. -/
def codes (style : Style) : List String :=
  (if style.bold then ["1"] else []) ++ (if style.dim then ["2"] else []) ++
    ["38", "2", toString style.colour.red, toString style.colour.green, toString style.colour.blue]

/-- A text between the sequences that switch a style on and off. -/
def paint (style : Style) (text : String) : String :=
  "\x1b[" ++ ";".intercalate style.codes ++ "m" ++ text ++ "\x1b[0m"

end Style

namespace Console

/-- A piece of text in one style. -/
structure Piece where
  style : Style
  text : List Char

/-- Characters that would move the cursor are dropped. -/
def isCursorControl (character : Char) : Bool :=
  let codePoint := character.toNat
  codePoint == 7 || codePoint == 8 || (11 ≤ codePoint && codePoint ≤ 13)

def clean (piece : Piece) : Piece :=
  { piece with text := piece.text.filter fun character => !isCursorControl character }

/-- A piece with its tabulators expanded, from a column on; the column after it comes second. -/
def expandPiece (column : Nat) : List Char → List Char × Nat
  | [] => ([], column)
  | '\t' :: rest =>
    let width := 8 - column % 8
    let (text, column) := expandPiece (column + width) rest
    (List.replicate width ' ' ++ text, column)
  | head :: rest =>
    let (text, column) := expandPiece (if head = '\n' then 0 else column + 1) rest
    (head :: text, column)

def expandPieces (column : Nat) : List Piece → List Piece
  | [] => []
  | piece :: pieces =>
    let (text, column) := expandPiece column piece.text
    { piece with text } :: expandPieces column pieces

/-- One line of a piece. -/
def showSegment (colours : Bool) (style : Style) (text : List Char) : String :=
  if text.isEmpty then ""
  else if colours then style.paint (String.ofList text)
  else String.ofList text

/-- A piece; its style is switched off at the end of each of its lines. -/
def showPiece (colours : Bool) (piece : Piece) : String :=
  "\n".intercalate ((Text.splitOn '\n' piece.text).map (showSegment colours piece.style))

/-- The output for a sequence of pieces, which ends its last line. -/
def print (colours : Bool) (pieces : List Piece) : String :=
  String.join ((expandPieces 0 (pieces.map clean)).map (showPiece colours)) ++ "\n"

/-- The label of a level and its colour. -/
def label : Level → String × Colour
  | .verbose => ("dbg", palette.dimmed)
  | .info => ("inf", palette.info)
  | .warn => ("wrn", palette.warning)
  | _ => ("err", palette.error)

/-- The line for a message. -/
def messageLine (level : Level) (message : String) : List Piece :=
  let (name, colour) := label level
  [ { style := .bolded colour, text := (name ++ " ").toList },
    { style := .faint palette.muted, text := "| ".toList },
    { style := .plain (if Level.warn.rank ≤ level.rank then colour else palette.text)
      text := message.toList } ]

/-- The line that sums up a run. -/
def summaryLine (title detail : String) : List Piece :=
  { style := .bolded palette.success, text := title.toList } ::
    if detail = "" then []
    else [{ style := { bold := true, dim := true, colour := palette.text }
            text := (" . " ++ detail).toList }]

/-- The messages of a logger that go to the console. -/
def shown (logger : Logger) : List (Level × String) :=
  match logger.sink with
  | .silent => []
  | .console => logger.passed

/-- The lines of messages. -/
def outputOf (colours : Bool) (messages : List (Level × String)) : String :=
  String.join (messages.map fun entry => print colours (messageLine entry.1 entry.2))

/-- What the console shows of the messages that a logger passed on. -/
def output (colours : Bool) (logger : Logger) : String := outputOf colours (shown logger)

end Console

end ApiDocs
