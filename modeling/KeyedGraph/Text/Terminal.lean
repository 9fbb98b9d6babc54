/-!
# Texts for a terminal

A text for a terminal may hold control sequences, which style what comes behind them or give
other orders. `plain` is what is left of such a text where there is no terminal: the characters
that show and the line breaks and blanks between them.
-/

namespace KeyedGraph.Text

/-! ### Control sequences -/

/-- What a terminal makes of the next character: it shows it, or takes it as a part of a control
sequence. Sequences with parameters are for the terminal or for a device; those for a device
bring data along. -/
inductive TerminalMode
  | ground
  | escape
  | escapeRest
  | opening (device : Bool)
  | parameters (device : Bool)
  | intermediates (device : Bool)
  | ignored (device : Bool)
  | deviceData
  | command
  | string
deriving DecidableEq, Repr

/-- Whether a code point is that of a control that shows as a gap. -/
def isGap (n : Nat) : Bool :=
  n == 0x09 || n == 0x0A || n == 0x0C || n == 0x0D

/-- Whether the byte 9C, which ends the data of a sequence, is in the UTF-8 form of a character
beyond ASCII. -/
def holdsTerminator (n : Nat) : Bool :=
  n % 64 == 0x1C || (0x800 ≤ n && n / 64 % 64 == 0x1C) || (0x10000 ≤ n && n / 4096 % 64 == 0x1C)

namespace TerminalMode

/-- The mode behind the last character of a sequence. -/
def afterSequence (device : Bool) : TerminalMode :=
  if device then .deviceData else .ground

/-- Whether data is read that the byte 9C ends. -/
def endsAtTerminator : TerminalMode → Bool
  | .ignored device => device
  | .deviceData | .string => true
  | _ => false

/-- The mode behind a printable ASCII character. -/
def afterPrintable (mode : TerminalMode) (n : Nat) : TerminalMode :=
  match mode with
  | .escape =>
    if n < 0x30 then .escapeRest
    else if n == 0x50 then .opening true
    else if n == 0x5B then .opening false
    else if n == 0x5D then .command
    else if n == 0x58 || n == 0x5E || n == 0x5F then .string
    else .ground
  | .escapeRest => if n < 0x30 then .escapeRest else .ground
  | .opening device =>
    if n < 0x30 then .intermediates device
    else if n < 0x40 then .parameters device
    else afterSequence device
  | .parameters device =>
    if n < 0x30 then .intermediates device
    else if n < 0x3C then .parameters device
    else if n < 0x40 then .ignored device
    else afterSequence device
  | .intermediates device =>
    if n < 0x30 then .intermediates device
    else if n < 0x40 then .ignored device
    else afterSequence device
  | .ignored device => if device || n < 0x40 then .ignored device else .ground
  | mode => mode

/-- The mode behind a character. -/
def after (mode : TerminalMode) (n : Nat) : TerminalMode :=
  if n == 0x1B then .escape
  else if n == 0x18 || n == 0x1A then .ground
  else if n == 0x07 && mode = .command then .ground
  else if n < 0x20 || n == 0x7F then mode
  else if 0x80 ≤ n then (if mode.endsAtTerminator && holdsTerminator n then .ground else mode)
  else mode.afterPrintable n

/-- Whether gaps show in a mode; they do not in the data of a sequence. -/
def showsGaps : TerminalMode → Bool
  | .ground | .escape | .escapeRest => true
  | .opening device | .parameters device | .intermediates device | .ignored device => !device
  | .deviceData | .command | .string => false

end TerminalMode

/-! ### Plain texts -/

/-- Whether a character shows outside of control sequences. -/
def isShown (n : Nat) : Bool :=
  isGap n || (0x20 ≤ n && n != 0x7F)

/-- Drops control sequences and the controls that are no gaps. A gap inside a sequence suspends
it: what follows shows, up to the next control or to a character beyond ASCII, which ends it. -/
def dropControls (mode : TerminalMode) (suspended : Bool) : List Char → List Char
  | [] => []
  | c :: cs =>
    let n := c.toNat
    if mode = .ground || suspended then
      if isShown n then c :: dropControls (if 0x80 ≤ n then .ground else mode) suspended cs
      else dropControls (mode.after n) false cs
    else if isGap n && mode.showsGaps then c :: dropControls mode true cs
    else dropControls (mode.after n) false cs

/-- What is left of a text for a terminal where there is none. -/
def plain (s : String) : String :=
  String.ofList (dropControls .ground false s.toList)

/-! ### Styles -/

/-- A text that a terminal shows in some style. -/
def styled (style : Nat) (s : String) : String :=
  "\x1b[" ++ toString style ++ "m" ++ s ++ "\x1b[0m"

/-- A text in bold. -/
def bold (s : String) : String := styled 1 s

/-- A text in the colour of what is wrong. -/
def warning (s : String) : String := styled 33 s

end KeyedGraph.Text
