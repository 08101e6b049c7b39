/-!
Text without the control sequences of a terminal. A sequence starts with an escape character and is
left out up to its end; other control characters are left out alone, except for those that stand for
blanks and line ends. A blank in a sequence interrupts it: what follows is shown up to the next
character that cannot be, and with that one the sequence goes on.
-/
namespace DirectionFinding

inductive SequenceState where
  | ground
  | escape
  | escapeIntermediate
  | controlEntry
  | controlParameter
  | controlIntermediate
  | controlIgnored
  | deviceEntry
  | deviceParameter
  | deviceIntermediate
  | deviceIgnored
  | devicePassthrough
  | systemCommand
  | privateString
  deriving DecidableEq, Repr

namespace SequenceState

def between (low high c : Char) : Bool :=
  low ≤ c && c ≤ high

/-- Whether a character holds the byte that ends a string of the eight-bit controls. -/
def holdsTerminator (c : Char) : Bool :=
  (String.singleton c).toUTF8.toList.contains 0x9c

def afterEscape (c : Char) : SequenceState :=
  if between ' ' '/' c then escapeIntermediate
  else if c = '[' then controlEntry
  else if c = ']' then systemCommand
  else if c = 'P' then deviceEntry
  else if c = 'X' ∨ c = '^' ∨ c = '_' then privateString
  else if between '0' '~' c then ground
  else escape

def inSequence (s : SequenceState) (c : Char) : SequenceState :=
  let isIntermediate := between ' ' '/' c
  let isNumber := between '0' ';' c
  let isMark := between '<' '?' c
  let isFinal := between '@' '~' c
  match s with
  | escapeIntermediate => if between '0' '~' c then ground else s
  | controlEntry =>
    if isIntermediate then controlIntermediate
    else if isNumber ∨ isMark then controlParameter
    else if isFinal then ground else s
  | controlParameter =>
    if isIntermediate then controlIntermediate
    else if isMark then controlIgnored
    else if isFinal then ground else s
  | controlIntermediate =>
    if isNumber ∨ isMark then controlIgnored
    else if isFinal then ground else s
  | controlIgnored => if isFinal then ground else s
  | deviceEntry =>
    if isIntermediate then deviceIntermediate
    else if isNumber ∨ isMark then deviceParameter
    else if isFinal then devicePassthrough else s
  | deviceParameter =>
    if isIntermediate then deviceIntermediate
    else if isMark then deviceIgnored
    else if isFinal then devicePassthrough else s
  | deviceIntermediate =>
    if isNumber ∨ isMark then deviceIgnored
    else if isFinal then devicePassthrough else s
  | deviceIgnored | devicePassthrough | privateString => if holdsTerminator c then ground else s
  | systemCommand => if c = '\x07' then ground else s
  | ground | escape => s

/-- State after a character. Three control characters end every sequence, one of them by starting
another. -/
def step (s : SequenceState) (c : Char) : SequenceState :=
  if c = '\x18' ∨ c = '\x1a' then ground
  else if c = '\x1b' then escape
  else if s = escape then afterEscape c
  else s.inSequence c

def isBlankControl (c : Char) : Bool :=
  c == '\t' || c == '\n' || c == '\x0c' || c == '\r'

def showsOutside (c : Char) : Bool :=
  isBlankControl c || (' ' ≤ c && c ≠ '\x7f')

/-- Whether a character is shown. Some sequences let blanks through, strings swallow them. -/
def shows (s : SequenceState) (c : Char) : Bool :=
  match s with
  | ground => showsOutside c
  | escape | escapeIntermediate | controlEntry | controlParameter | controlIntermediate
  | controlIgnored => isBlankControl c
  | _ => false

/-- What is shown of a text. While `reading`, characters are looked at as outside of sequences. -/
def shown (s : SequenceState) (reading : Bool) : List Char → List Char
  | [] => []
  | c :: rest =>
    if reading then
      if showsOutside c then c :: shown (if c.toNat < 0x80 then s else ground) true rest
      else shown (s.step c) false rest
    else if s.shows c then c :: shown (s.step c) true rest
    else shown (s.step c) false rest

end SequenceState

def plainText (text : String) : String :=
  String.ofList (SequenceState.ground.shown false text.toList)

end DirectionFinding
